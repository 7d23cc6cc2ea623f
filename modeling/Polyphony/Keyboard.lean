namespace Polyphony.Keyboard

/-!
# A piano on a computer keyboard

Two rows of letters are laid out like the keys of a piano, the upper row being
the black keys.  An octave number moves the whole row.
-/

/-- The characters that play, from the lowest tone upwards. -/
def layout : List Char :=
  "awsedftgyhujkolp;".toList

/-- The twelve tones of an octave. -/
def toneNames : Vector String 12 :=
  #v["C", "C#", "D", "D#", "E", "F", "F#", "G", "G#", "A", "A#", "B"]

/-- The note key of a character in an octave, of which the fourth has key 60. -/
def key?
    (octave : Nat)
    (character : Char) :
    Option Nat :=
  match layout.findIdx? (· = character.toLower) with
  | some offset =>
      let key := (octave + 1) * 12 + offset
      if key ≤ 127 then some key else none
  | none => none

/-- The name of a note key: its tone and the number of its octave. -/
def noteName (key : Nat) : String :=
  let octave : Int := (key / 12 : Nat) - 1
  toneNames.get ⟨key % 12, Nat.mod_lt key (by decide)⟩ ++ toString octave

end Polyphony.Keyboard
