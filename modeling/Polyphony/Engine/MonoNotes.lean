import Polyphony.Engine.Control

namespace Polyphony.Engine

/-!
# One note at a time

A helper that plays single notes on one channel: it releases the key it plays
before it presses the next one.
-/

open Instrument (BankId)
open Number (Transcendental)
open SoundFont (BankLoader)

/-- The channel and velocity of a helper, and the key that it holds. -/
structure MonoNotes where
  channel : Nat
  velocity : Nat
  current? : Option Nat
  deriving Repr, DecidableEq

namespace MonoNotes

/-- A helper that holds no key. -/
def new
    (channel velocity : Nat) :
    MonoNotes where
  channel := channel
  velocity := velocity
  current? := none

/--
Load a bank and bind the channel to one of its playable presets, counted from
zero.  If there are not so many, the bank is unloaded again.
-/
def setFont
    (loader : BankLoader)
    (path : String)
    (index : Nat)
    (notes : MonoNotes)
    (synth : Synth) :
    Outcome BankId :=
  (synth.load loader path false).andThen fun id loaded =>
    match loaded.bank id with
    | .error error => .rejected error loaded
    | .ok bank =>
        let playable := bank.playablePresets
        match playable[index]? with
        | none =>
            (loaded.unload id false).andThen fun _ unloaded =>
              .rejected
                (.invalidConfiguration (.presetIndex index playable.length))
                unloaded
        | some preset =>
            (loaded.programSelect notes.channel id preset.bankNumber
              preset.program).andThen fun _ bound =>
                ⟨.ok id, bound, []⟩

/-- Release the key that is held, if one is. -/
def release
    (notes : MonoNotes)
    (synth : Synth) :
    MonoNotes × Outcome Unit :=
  let released := { notes with current? := none }
  match notes.current? with
  | some key => (released, synth.noteOff notes.channel key)
  | none => (released, ⟨.ok (), synth, []⟩)

/-- Release the key that is held, if one is, and press another. -/
def switch
    [Transcendental]
    (key : Nat)
    (notes : MonoNotes)
    (synth : Synth) :
    MonoNotes × Outcome Unit :=
  let (released, first) := notes.release synth
  let outcome := first.andThen fun _ silent =>
    silent.noteOn notes.channel key notes.velocity
  match outcome.result with
  | .ok _ => ({ released with current? := some key }, outcome)
  | .error _ => (released, outcome)

end MonoNotes

end Polyphony.Engine
