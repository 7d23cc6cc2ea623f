import Polyphony.Instrument.Matching
import Polyphony.Number.Extremum

namespace Polyphony.Engine

/-!
# Channels

A channel is told a bank number and a program, is bound to a preset that
answers them, and has controllers that shape all of its voices.
-/

open Instrument (BankId Match MatchQuality)
open Number (clamp)

/-- The channel that plays percussion by convention. -/
def drumChannel : Nat := 9

/-- The bank number of percussion. -/
def drumBank : Nat := 128

/-- The pitch bend value that leaves the pitch alone. -/
def bendCentre : Nat := 8192

/-- How far the pitch can be bent either way, in semitones. -/
def bendRange : Float32 := 2

/-! ## Controllers that have a meaning here, by their numbers -/

namespace Controller

/-- The bank number for the next program change. -/
def bankSelect : Nat := 0

/-- The volume of the channel. -/
def volume : Nat := 7

/-- The stereo position of the channel. -/
def pan : Nat := 10

/-- A second volume, for swells. -/
def expression : Nat := 11

/-- Cut all sounds of the channel short. -/
def allSoundOff : Nat := 120

/-- Put the controllers back to where they start. -/
def resetControllers : Nat := 121

/-- Release all keys of the channel. -/
def allNotesOff : Nat := 123

end Controller

/-- Which preset a channel plays. -/
inductive Binding where
  /-- One that was asked for; loading banks never changes it. -/
  | selected (bankId : BankId) (preset : Nat)
  /-- One that was found among the loaded banks. -/
  | resolved (found : Match)
  /-- None: notes are silent. -/
  | noInstrument
  deriving Repr, DecidableEq

namespace Binding

/-- The bank and the position in it of the preset, if there is one. -/
def target? : Binding → Option (BankId × Nat)
  | .selected bankId preset => some (bankId, preset)
  | .resolved found => some (found.bankId, found.preset)
  | .noInstrument => none

/-- The bank of the preset, if there is one. -/
def bankId? (binding : Binding) : Option BankId :=
  binding.target?.map Prod.fst

/-- How well the preset answers its channel. -/
def quality : Binding → MatchQuality
  | .selected _ _ => .exact
  | .resolved found => found.quality
  | .noInstrument => .nothing

/-- Whether the preset was asked for. -/
def isSelected : Binding → Bool
  | .selected _ _ => true
  | _ => false

end Binding

/-- What the controllers of a channel do to each of its voices. -/
structure ChannelMix where
  gain : Float32
  pan : Float32
  bend : Float32
  deriving DecidableEq

namespace ChannelMix

/-- The mix of a channel that is not there. -/
def silent : ChannelMix :=
  ⟨0, 0, 0⟩

end ChannelMix

/-- The program, the binding and the controllers of one channel. -/
structure Channel where
  index : Nat
  bankNumber : Nat
  program : Nat
  binding : Binding
  controllers : Vector Nat 128
  pitchBend : Nat
  deriving DecidableEq

namespace Channel

/-- The value of a controller, of whose number the low seven bits count. -/
def controller
    (number : Nat)
    (channel : Channel) :
    Nat :=
  channel.controllers.get ⟨number % 128, Nat.mod_lt number (by decide)⟩

/-- Store the low seven bits of a controller value. -/
def storeController
    (number value : Nat)
    (channel : Channel) :
    Channel :=
  { channel with
    controllers :=
      channel.controllers.set (number % 128) (value % 128)
        (Nat.mod_lt number (by decide)) }

/-- Put volume, pan, expression and pitch bend back to where they start. -/
def resetControllers (channel : Channel) : Channel :=
  { channel.storeController Controller.volume 100
      |>.storeController Controller.pan 64
      |>.storeController Controller.expression 127 with
    pitchBend := bendCentre }

/-- A channel that plays nothing yet. -/
def new (index : Nat) : Channel :=
  resetControllers
    {
      index := index
      bankNumber := if index = drumChannel then drumBank else 0
      program := 0
      binding := .noInstrument
      controllers := Vector.replicate 128 0
      pitchBend := bendCentre
    }

/-- Play a preset that was asked for. -/
def select
    (bankId : BankId)
    (preset bankNumber program : Nat)
    (channel : Channel) :
    Channel :=
  { channel with
    bankNumber := bankNumber
    program := program
    binding := .selected bankId preset }

/-- Want another program. -/
def setProgram
    (program : Nat)
    (channel : Channel) :
    Channel :=
  { channel with program := program }

/--
Whether a preset of a newly loaded bank takes over: never from one that was
asked for, else if it is exact or better than the present one.
-/
def accepts
    (candidate : Match)
    (channel : Channel) :
    Bool :=
  !channel.binding.isSelected &&
    candidate.quality ≠ .nothing &&
    (candidate.quality = .exact ||
      candidate.quality.exceeds channel.binding.quality)

/-- Play a preset of a newly loaded bank, if it takes over. -/
def offer
    (candidate : Match)
    (channel : Channel) :
    Channel :=
  if channel.accepts candidate then
    { channel with binding := .resolved candidate }
  else
    channel

/-- Play the preset that a search has found, or nothing. -/
def resolveTo
    (found? : Option Match)
    (channel : Channel) :
    Channel :=
  { channel with
    binding :=
      match found? with
      | some found => .resolved found
      | none => .noInstrument }

/-- The bank number that a bank select value stands for on a channel. -/
def selectedBankNumber
    (index value : Nat) :
    Nat :=
  if index = drumChannel && value = 0 then drumBank else value

/--
Store a controller value.  A bank select sets the bank number, which counts
from the next program change on.
-/
def setController
    (number value : Nat)
    (channel : Channel) :
    Channel :=
  let stored := channel.storeController number value
  if number % 128 = Controller.bankSelect then
    { stored with
      bankNumber := selectedBankNumber channel.index (value % 128) }
  else
    stored

/-- Bend the pitch; values beyond fourteen bits count as the greatest. -/
def setPitchBend
    (value : Nat)
    (channel : Channel) :
    Channel :=
  { channel with pitchBend := min value 16383 }

/-- What the controllers do to a voice. -/
def mix (channel : Channel) : ChannelMix :=
  let volume :=
    Float32.ofNat (channel.controller Controller.volume) / 127
  let expression :=
    Float32.ofNat (channel.controller Controller.expression) / 127
  let pan :=
    (Float32.ofNat (channel.controller Controller.pan) - 64) / 63
  let centre := Float32.ofNat bendCentre
  let bend := (Float32.ofNat channel.pitchBend - centre) / centre
  {
    gain := volume * volume * expression * expression
    pan := clamp (-1) 1 pan
    bend := bend * bendRange * 100
  }

end Channel

end Polyphony.Engine
