import Polyphony.Instrument.Preset

namespace Polyphony.Instrument

/-!
# Directories

A directory tells where the presets of a bank stand: by address, by program
alone, and where anything that sounds does.  It is made in one pass over the
presets.  The first preset of an address keeps it.  Under a program stands, of
the presets that can sound, the one in the lowest bank number; the first of
several.
-/

/-- A preset that is listed under its program: its bank number and its place. -/
structure ProgramEntry where
  bankNumber : Nat
  index : Nat
  deriving Repr, DecidableEq

/-- The places of presets.  In either table the first entry of a key counts. -/
structure Directory where
  addresses : List ((Nat × Nat) × Nat)
  programs : List (Nat × ProgramEntry)
  firstPlayable? : Option Nat
  deriving Repr, DecidableEq

namespace Directory

/-- A directory of no presets. -/
def empty : Directory where
  addresses := []
  programs := []
  firstPlayable? := none

/-- List a preset under its address, unless another one is. -/
def enterAddress
    (preset : Preset)
    (index : Nat)
    (addresses : List ((Nat × Nat) × Nat)) :
    List ((Nat × Nat) × Nat) :=
  let address := (preset.bankNumber, preset.program)
  if (addresses.lookup address).isSome then
    addresses
  else
    (address, index) :: addresses

/--
List a preset under its program, unless another one is whose bank number is not
higher.
-/
def enterProgram
    (preset : Preset)
    (index : Nat)
    (programs : List (Nat × ProgramEntry)) :
    List (Nat × ProgramEntry) :=
  let lowest := fun listed : ProgramEntry =>
    decide (preset.bankNumber < listed.bankNumber)
  if (programs.lookup preset.program).all lowest then
    (preset.program, ⟨preset.bankNumber, index⟩) :: programs
  else
    programs

/-- List the preset of a place.  Only its address counts if it cannot sound. -/
def enter
    (directory : Directory)
    (entry : Preset × Nat) :
    Directory :=
  let (preset, index) := entry
  let addresses := enterAddress preset index directory.addresses
  if preset.isPlayable then
    {
      addresses
      programs := enterProgram preset index directory.programs
      firstPlayable? := directory.firstPlayable?.or (some index)
    }
  else
    { directory with addresses }

/-- The directory of some presets. -/
def ofPresets (presets : List Preset) : Directory :=
  presets.zipIdx.foldl enter empty

end Directory

end Polyphony.Instrument
