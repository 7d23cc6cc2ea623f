import Polyphony.Instrument.Zone

namespace Polyphony.Instrument

/-!
# Presets

A preset is one playable sound of a bank: a name, an address made of a bank
number and a program, and the zones that sound together.
-/

/-- A named sound, found by its bank number and its program. -/
structure Preset where
  name : String
  bankNumber : Nat
  program : Nat
  zones : List Zone
  deriving DecidableEq

/-- What a list of presets shows of one of them. -/
structure PresetSummary where
  bankNumber : Nat
  program : Nat
  name : String
  zoneCount : Nat
  deriving Repr, DecidableEq

namespace Preset

/-- Whether the preset can make a sound at all. -/
def isPlayable (preset : Preset) : Bool :=
  !preset.zones.isEmpty

/-- Whether the preset has this bank number and program. -/
def hasAddress
    (bankNumber program : Nat)
    (preset : Preset) :
    Bool :=
  preset.bankNumber = bankNumber && preset.program = program

/-- The zones that a note sounds, in order. -/
def layers
    (key velocity : Nat)
    (preset : Preset) :
    List Zone :=
  preset.zones.filter (Zone.covers key velocity)

/-- The summary of a preset. -/
def summary (preset : Preset) : PresetSummary where
  bankNumber := preset.bankNumber
  program := preset.program
  name := preset.name
  zoneCount := preset.zones.length

end Preset

end Polyphony.Instrument
