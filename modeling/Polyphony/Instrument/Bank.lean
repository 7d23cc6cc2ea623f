import Polyphony.Instrument.Directory
import Polyphony.Text.Quoted

namespace Polyphony.Instrument

/-!
# Banks

A bank is a pool of samples and the presets that play from it.  It is built
once, from a draft that is checked zone by zone, and never changes.  What it is
asked for by address or by program it looks up in the directory of its presets,
which is made with it.
-/

/-- What is wrong with a zone of a draft. -/
inductive BankFault where
  | sampleOutOfRange
      (preset : String)
      (zone start stop poolSize : Nat)
  | zeroSampleRate
      (preset : String)
      (zone : Nat)
  deriving Repr, DecidableEq

namespace BankFault

/-- The text of a fault. -/
def message : BankFault → String
  | .sampleOutOfRange preset zone start stop poolSize =>
      let name := Text.quote preset
      s!"preset {name}: zone {zone} reads samples {start}..{stop} " ++
        s!"outside the pool of {poolSize}"
  | .zeroSampleRate preset zone =>
      let name := Text.quote preset
      s!"preset {name}: zone {zone} has a zero sample rate"

end BankFault

/-- The fault of one recording: first its place in the pool, then its rate. -/
def recordingFault?
    (poolSize : Nat)
    (preset : String)
    (zone : Nat)
    (recording : Recording) :
    Option BankFault :=
  if recording.stop < recording.start || poolSize < recording.stop then
    some
      (.sampleOutOfRange preset zone recording.start recording.stop poolSize)
  else if recording.sampleRate = 0 then
    some (.zeroSampleRate preset zone)
  else
    none

/-- The first fault among the zones of a preset. -/
def presetFault?
    (poolSize : Nat)
    (preset : Preset) :
    Option BankFault :=
  preset.zones.zipIdx.findSome? fun (zone, position) =>
    recordingFault? poolSize preset.name position zone.recording

/-- The first fault among the zones of some presets, taken in order. -/
def firstFault?
    (poolSize : Nat)
    (presets : List Preset) :
    Option BankFault :=
  presets.findSome? (presetFault? poolSize)

/--
A named pool of samples, presets whose zones all play from it, and the directory
of these.
-/
structure Bank where
  name : String
  samples : Array Int16
  presets : List Preset
  faultFree : firstFault? samples.size presets = none
  directory : Directory := .ofPresets presets
  isListed : directory = .ofPresets presets := by rfl
  deriving DecidableEq

/-- A bank in the making. -/
structure BankDraft where
  name : String
  samples : Array Int16
  presets : List Preset

namespace BankDraft

/-- A draft with a name and nothing else. -/
def named (name : String) : BankDraft where
  name := name
  samples := #[]
  presets := []

/-- Append a recording to the pool; its place there is the result's second part. -/
def addRecording
    (samples : Array Int16)
    (sampleRate : Nat)
    (draft : BankDraft) :
    BankDraft × Recording :=
  let pool := draft.samples ++ samples
  ({ draft with samples := pool },
    .spanning draft.samples.size pool.size sampleRate)

/-- Append a preset. -/
def addPreset
    (preset : Preset)
    (draft : BankDraft) :
    BankDraft :=
  { draft with presets := draft.presets ++ [preset] }

/-- The bank of a draft, or the first fault among its zones. -/
def build
    (draft : BankDraft) :
    Except BankFault Bank :=
  match found : firstFault? draft.samples.size draft.presets with
  | some fault => .error fault
  | none =>
      .ok {
        name := draft.name
        samples := draft.samples
        presets := draft.presets
        faultFree := found
      }

end BankDraft

namespace Bank

/-- A bank with a name and nothing in it. -/
def empty (name : String) : Bank where
  name := name
  samples := #[]
  presets := []
  faultFree := rfl

/-- The presets that can make a sound, in order. -/
def playablePresets (bank : Bank) : List Preset :=
  bank.presets.filter Preset.isPlayable

/-- The position of the preset that is listed under an address. -/
def presetIndex?
    (bankNumber program : Nat)
    (bank : Bank) :
    Option Nat :=
  bank.directory.addresses.lookup (bankNumber, program)

/-- The position of the playable preset that is listed under a program. -/
def programFallback?
    (program : Nat)
    (bank : Bank) :
    Option Nat :=
  (bank.directory.programs.lookup program).map ProgramEntry.index

/-- The position of the first preset that can make a sound. -/
def firstPlayable? (bank : Bank) : Option Nat :=
  bank.directory.firstPlayable?

/-- The first preset of an address. -/
def preset?
    (bankNumber program : Nat)
    (bank : Bank) :
    Option Preset :=
  (bank.presetIndex? bankNumber program).bind (bank.presets[·]?)

/-- The summaries of all presets, in order. -/
def summaries (bank : Bank) : List PresetSummary :=
  bank.presets.map Preset.summary

end Bank

/-- The handle of a loaded bank, given out once and never again. -/
structure BankId where
  number : Nat
  deriving Repr, DecidableEq

end Polyphony.Instrument
