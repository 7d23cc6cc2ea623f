import Polyphony.Configuration
import Polyphony.Engine.BankTable
import Polyphony.Engine.VoicePool

namespace Polyphony.Engine

/-!
# The synthesizer

Channels, voices and loaded banks together, and what can be asked of them
without changing anything.
-/

open Instrument (Bank BankId PresetSummary)

/-- Everything that sound is made from. -/
structure Synth where
  configuration : SynthConfiguration
  channels : List Channel
  pool : VoicePool
  banks : BankTable
  nextSerial : Nat
  deriving DecidableEq

namespace Synth

/--
The room for parked references: each voice may leave one when it is stolen and
one when it ends, and each loaded bank has one of its own.
-/
def queueCapacity (configuration : SynthConfiguration) : Nat :=
  2 * configuration.polyphony + configuration.maxBanks

/-- A synthesizer without banks. -/
def new (configuration : SynthConfiguration) : Synth where
  configuration := configuration
  channels := (List.range configuration.channels).map Channel.new
  pool :=
    .new configuration.sampleRate configuration.polyphony
      (queueCapacity configuration)
  banks := .new configuration.maxBanks
  nextSerial := 0

/-- A structured description of a synthesizer. -/
def describe (synth : Synth) : String :=
  "Synth \x7b config: " ++ synth.configuration.describe ++ ", .. \x7d"

/-- The error of a channel that the synthesizer does not have. -/
def channelError?
    (channel : Nat)
    (synth : Synth) :
    Option SynthError :=
  let count := synth.configuration.channels
  if count ≤ channel then
    some (.invalidChannel channel count)
  else
    none

/-- The bank of a handle. -/
def bank
    (id : BankId)
    (synth : Synth) :
    Except SynthError Bank :=
  match synth.banks.get? id with
  | some entry => .ok entry.bank
  | none => .error (.unknownBank id)

/-- The summaries of the presets of a bank. -/
def presets
    (id : BankId)
    (synth : Synth) :
    Except SynthError (List PresetSummary) :=
  (synth.bank id).map Bank.summaries

/-- What a channel is bound to. -/
def binding
    (channel : Nat)
    (synth : Synth) :
    Except SynthError Binding :=
  match synth.channels[channel]? with
  | some entry => .ok entry.binding
  | none => .error (.invalidChannel channel synth.configuration.channels)

/-- The loaded bank and the preset that a binding leads to. -/
def boundPreset?
    (binding : Binding)
    (synth : Synth) :
    Option (BankReference × Instrument.Preset) := do
  let (id, position) ← binding.target?
  let entry ← synth.banks.get? id
  let preset ← entry.bank.presets[position]?
  return (entry, preset)

/-- The preset that a channel plays, if it plays one. -/
def channelPreset
    (channel : Nat)
    (synth : Synth) :
    Except SynthError (Option PresetSummary) :=
  (synth.binding channel).map fun binding =>
    (synth.boundPreset? binding).map fun (_, preset) => preset.summary

/-- How many voices hold a reference to a bank. -/
def voiceReferences
    (id : BankId)
    (synth : Synth) :
    Nat :=
  synth.pool.count (VoicePool.holdsReference id)

/-- How many references to a bank there are, wherever they are. -/
def references
    (id : BankId)
    (synth : Synth) :
    Nat :=
  synth.banks.count id + synth.voiceReferences id +
    synth.pool.retired.count id

end Synth

end Polyphony.Engine
