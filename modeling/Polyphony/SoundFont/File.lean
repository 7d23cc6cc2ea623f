namespace Polyphony.SoundFont

/-!
# The contents of a font file

A font file holds one pool of samples, headers that name recordings in it,
instruments that arrange recordings over the keys, and presets that arrange
instruments.  Instruments and presets are lists of zones, and a zone is a list
of numbered settings, the generators.
-/

/-- One generator and the value it is set to. -/
structure Setting where
  generator : Nat
  value : Int
  deriving Repr, DecidableEq

/-- The settings of one zone, in file order. -/
abbrev SettingList : Type :=
  List Setting

/-- A recording in the pool: its bounds, loop, rate and recorded pitch. -/
structure SampleHeader where
  start : Int
  stop : Int
  loopStart : Int
  loopStop : Int
  sampleRate : Int
  pitch : Nat
  correction : Int
  deriving Repr, DecidableEq

/-- The zones of an instrument. -/
structure FileInstrument where
  zones : List SettingList
  deriving Repr, DecidableEq

/-- The name, the address and the zones of a preset. -/
structure FilePreset where
  name : String
  program : Nat
  bankNumber : Nat
  zones : List SettingList
  deriving Repr, DecidableEq

/-- The contents of a font file that is complete. -/
structure FontFile where
  pool : Array Int16
  headers : List SampleHeader
  instruments : List FileInstrument
  presets : List FilePreset
  deriving DecidableEq

/-- What a path leads to. -/
inductive FileContents where
  | font (file : FontFile)
  /-- Anything that is no complete font. -/
  | other
  deriving DecidableEq

/-! ## The generators that have a meaning here, by their numbers -/

namespace Generator

/-- Samples to move the start of a recording by. -/
def startOffset : Nat := 0

/-- Samples to move the end of a recording by. -/
def stopOffset : Nat := 1

/-- Samples to move the start of a loop by. -/
def loopStartOffset : Nat := 2

/-- Samples to move the end of a loop by. -/
def loopStopOffset : Nat := 3

/-- Blocks of 32768 samples to move the start of a recording by. -/
def startCoarseOffset : Nat := 4

/-- Blocks of 32768 samples to move the end of a recording by. -/
def stopCoarseOffset : Nat := 12

/-- Stereo position, in tenths of a percent. -/
def pan : Nat := 17

/-- Time before the attack, in cents of an octave of seconds. -/
def delay : Nat := 33

/-- Time of the attack, in cents of an octave of seconds. -/
def attack : Nat := 34

/-- Time at full level, in cents of an octave of seconds. -/
def hold : Nat := 35

/-- Time of the decay, in cents of an octave of seconds. -/
def decay : Nat := 36

/-- Attenuation of the sustained level, in tenths of a decibel. -/
def sustain : Nat := 37

/-- Time of the release, in cents of an octave of seconds. -/
def release : Nat := 38

/-- The instrument that a preset zone plays. -/
def instrument : Nat := 41

/-- The keys of a zone, both ends in one value. -/
def keyRange : Nat := 43

/-- The velocities of a zone, both ends in one value. -/
def velocityRange : Nat := 44

/-- Blocks of 32768 samples to move the start of a loop by. -/
def loopStartCoarseOffset : Nat := 45

/-- Attenuation, in tenths of a decibel. -/
def attenuation : Nat := 48

/-- Blocks of 32768 samples to move the end of a loop by. -/
def loopStopCoarseOffset : Nat := 50

/-- Tuning in semitones. -/
def coarseTuning : Nat := 51

/-- Tuning in cents. -/
def fineTuning : Nat := 52

/-- The recording that an instrument zone plays. -/
def sample : Nat := 53

/-- How the recording loops. -/
def loopMode : Nat := 54

/-- Cents of pitch from one key to the next. -/
def keyScaling : Nat := 56

/-- The key at which a recording sounds as it is. -/
def rootKey : Nat := 58

end Generator

namespace SettingList

/-- A value as the sixteen bits of a file hold it. -/
def storedValue (value : Int) : Int :=
  value.bmod 65536

/-- The last value of a generator, or a default where it is not set. -/
def value
    (generator : Nat)
    (default : Int)
    (settings : SettingList) :
    Int :=
  match settings.reverse.find? (·.generator = generator) with
  | some setting => storedValue setting.value
  | none => default

/--
Whether a first zone only states what all zones after it share: it does unless
its last setting is the one that refers on to a sound.
-/
def isGlobal
    (reference : Nat)
    (settings : SettingList) :
    Bool :=
  match settings.getLast? with
  | some setting => setting.generator ≠ reference
  | none => true

/-- The settings of each region of some zones, with the shared ones in front. -/
def regions
    (reference : Nat) :
    List SettingList → List SettingList
  | [] => []
  | first :: rest =>
      if isGlobal reference first then
        rest.map (first ++ ·)
      else
        first :: rest

end SettingList

end Polyphony.SoundFont
