import Polyphony.Engine.Programs
import Polyphony.Instrument.Preset
import Polyphony.Text.Numeral

namespace Polyphony

/-!
# Log events

What the synthesizer and its output tell about their work, and how each event
is written as one line: its level, what happened, and the details by name.
-/

open Engine (Rebinding StolenVoice)
open Instrument (BankId Match PresetSummary)
open Text (writeBits)

/-- The levels of events. -/
inductive LogLevel where
  | debug
  | info
  | warning
  deriving Repr, DecidableEq

namespace LogLevel

/-- The word for a level. -/
def word : LogLevel → String
  | .debug => "DEBUG"
  | .info => "INFO"
  | .warning => "WARN"

end LogLevel

/-- Events worth telling about. -/
inductive LogEvent where
  | synthCreated
      (sampleRate : Float32)
      (channels polyphony : Nat)
      (gain : Float32)
  | presetFlattened (preset : PresetSummary)
  | soundFontLoaded (id : BankId) (path : String)
  | channelRebound (rebinding : Rebinding)
  | bankAdded (id : BankId) (name : String) (presets : Nat)
  | channelFellBack (rebinding : Rebinding)
  | bankUnloaded (id : BankId) (name : String) (releasing : Nat)
  | programSelected (channel : Nat) (id : BankId) (bankNumber program : Nat)
  | programResolved (channel program : Nat) (found? : Option Match)
  | voiceStolen (voice : StolenVoice)
  | layersDropped (channel key dropped polyphony : Nat)
  | referencesReclaimed (count : Nat)
  | fixedPeriodRejected (periodSize : Nat)
  | streamStarted
      (host device : String)
      (channels sampleRate periodSize : Nat)
  deriving DecidableEq

namespace LogEvent

/-- The level of an event. -/
def level : LogEvent → LogLevel
  | .soundFontLoaded .. => .info
  | .bankAdded .. => .info
  | .bankUnloaded .. => .info
  | .streamStarted .. => .info
  | .layersDropped .. => .warning
  | .fixedPeriodRejected .. => .warning
  | _ => .debug

/-- What happened. -/
def title : LogEvent → String
  | .synthCreated .. => "synth created"
  | .presetFlattened .. => "flattened preset"
  | .soundFontLoaded .. => "loaded soundfont"
  | .channelRebound .. => "channel rebound to new bank"
  | .bankAdded .. => "bank added"
  | .channelFellBack .. => "channel fell back"
  | .bankUnloaded .. => "bank unloaded"
  | .programSelected .. => "program selected"
  | .programResolved .. => "program resolved"
  | .voiceStolen .. => "stole voice"
  | .layersDropped .. => "not enough voices for every layer"
  | .referencesReclaimed .. => "reclaimed bank references"
  | .fixedPeriodRejected .. => "fixed period rejected, using device default"
  | .streamStarted .. => "audio stream started"

/-- The result of a search, as events show it. -/
def describeMatch : Option Match → String
  | none => "None"
  | some found =>
      s!"Some((BankId({found.bankId.number}), {found.preset}, " ++
        found.quality.name ++ "))"

/-- The details of a binding that moved. -/
def rebindingDetails (rebinding : Rebinding) : List (String × String) :=
  [("channel", toString rebinding.channel),
   ("found", describeMatch rebinding.found?)]

/-- The details of an event, in order. -/
def details : LogEvent → List (String × String)
  | .synthCreated sampleRate channels polyphony gain =>
      [("sample_rate", writeBits sampleRate),
       ("channels", toString channels),
       ("polyphony", toString polyphony),
       ("gain", writeBits gain)]
  | .presetFlattened preset =>
      [("preset", preset.name),
       ("bank", toString preset.bankNumber),
       ("program", toString preset.program),
       ("zones", toString preset.zoneCount)]
  | .soundFontLoaded id path =>
      [("bank_id", toString id.number), ("path", path)]
  | .channelRebound rebinding => rebindingDetails rebinding
  | .bankAdded id name presets =>
      [("bank_id", toString id.number),
       ("name", name),
       ("presets", toString presets)]
  | .channelFellBack rebinding => rebindingDetails rebinding
  | .bankUnloaded id name releasing =>
      [("bank_id", toString id.number),
       ("name", name),
       ("releasing", toString releasing)]
  | .programSelected channel id bankNumber program =>
      [("channel", toString channel),
       ("bank_id", toString id.number),
       ("bank_number", toString bankNumber),
       ("program", toString program)]
  | .programResolved channel program found? =>
      [("channel", toString channel),
       ("program", toString program),
       ("found", describeMatch found?)]
  | .voiceStolen voice =>
      [("slot", toString voice.slot),
       ("channel", toString voice.channel),
       ("key", toString voice.key),
       ("state", voice.state.name)]
  | .layersDropped channel key dropped polyphony =>
      [("channel", toString channel),
       ("key", toString key),
       ("dropped", toString dropped),
       ("polyphony", toString polyphony)]
  | .referencesReclaimed count => [("dropped", toString count)]
  | .fixedPeriodRejected periodSize =>
      [("buffer_size", s!"Fixed({periodSize})")]
  | .streamStarted host device channels sampleRate periodSize =>
      [("host", host),
       ("device", device),
       ("channels", toString channels),
       ("sample_rate", toString sampleRate),
       ("period", toString periodSize)]

/-- The line of an event. -/
def line (event : LogEvent) : String :=
  " ".intercalate
    ([event.level.word, event.title] ++
      event.details.map fun (name, value) => name ++ "=" ++ value)

end LogEvent

end Polyphony
