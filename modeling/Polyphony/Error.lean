import Polyphony.Instrument.Bank
import Polyphony.Settings
import Polyphony.Text.Numeral
import Polyphony.Text.Quoted

namespace Polyphony

/-!
# Errors

The causes for which a control call can fail, and the wording of each of them.
Rendering never fails.
-/

open Instrument (BankFault BankId)
open Text (quote writeNumber)

/-- What is wrong with a configuration. -/
inductive ConfigurationFault where
  | mistyped (setting : MistypedSetting)
  | unknownInterpolation (word : String)
  | sampleRate (value : Float)
  | channelCount (value : Int)
  | polyphony (value : Int)
  | gain (value : Float)
  | maxBanks (value : Int)
  | periodSize (value : Int)
  | presetIndex (index playable : Nat)
  | described (text : String)
  deriving DecidableEq

namespace ConfigurationFault

/-- The wording of a configuration fault. -/
def message : ConfigurationFault → String
  | .mistyped setting =>
      "`" ++ setting.name ++ "` holds a " ++ setting.found.word ++
        " but expects a " ++ setting.expected.word
  | .unknownInterpolation word =>
      "unknown interpolation `" ++ word ++ "`"
  | .sampleRate value =>
      "sample rate " ++ writeNumber value ++ " outside 8000..=192000"
  | .channelCount value => s!"channel count {value} outside 1..=256"
  | .polyphony value => s!"polyphony {value} outside 1..=65535"
  | .gain value => "gain " ++ writeNumber value ++ " outside 0..=10"
  | .maxBanks value => s!"max banks {value} must be positive"
  | .periodSize value => s!"period size {value} outside 16..=8192"
  | .presetIndex index playable =>
      s!"preset index {index} out of range, " ++
        s!"bank has {playable} playable presets"
  | .described text => text

end ConfigurationFault

/-- Why a file gives no bank. -/
inductive LoadFault where
  | fileNotFound
  | notASoundFont
  | noFormatSupport
  | bank (fault : BankFault)
  | described (text : String)
  deriving DecidableEq

namespace LoadFault

/-- The wording of a load fault. -/
def message : LoadFault → String
  | .fileNotFound => "No such file or directory (os error 2)"
  | .notASoundFont => "not a valid soundfont"
  | .noFormatSupport => "no soundfont format support compiled in"
  | .bank fault => fault.message
  | .described text => text

end LoadFault

/-- Why no audio output could be opened, stopped or started. -/
inductive DeviceFault where
  | noHost (name : String)
  | noDevice (name : String)
  | noDefaultDevice
  | unsupportedFormat (name : String)
  | described (text : String)
  deriving DecidableEq

namespace DeviceFault

/-- The wording of a device fault. -/
def message : DeviceFault → String
  | .noHost name => "no audio host named `" ++ name ++ "`"
  | .noDevice name => "no output device named `" ++ name ++ "`"
  | .noDefaultDevice => "no default output device"
  | .unsupportedFormat name => "unsupported sample format " ++ name
  | .described text => text

end DeviceFault

/-- The causes for which a control call fails. -/
inductive SynthError where
  | invalidConfiguration (fault : ConfigurationFault)
  | invalidSettingKind (refusal : SettingRefusal)
  | invalidKey (key : Nat)
  | invalidChannel (channel count : Nat)
  | invalidVelocity (velocity : Nat)
  | loadFailed (path : String) (fault : LoadFault)
  | unknownBank (id : BankId)
  | bankInUse (id : BankId)
  | outOfBanks (limit : Nat)
  | noSuchPreset (id : BankId) (bankNumber program : Nat)
  | deviceUnavailable (fault : DeviceFault)
  deriving DecidableEq

namespace SynthError

/-- The wording of an error. -/
def message : SynthError → String
  | .invalidConfiguration fault =>
      "invalid configuration: " ++ fault.message
  | .invalidSettingKind refusal =>
      "setting `" ++ refusal.name ++ "` expects a " ++
        refusal.expected.word ++ " value"
  | .invalidKey key => s!"note key {key} is outside 0..=127"
  | .invalidChannel channel count =>
      s!"channel {channel} is outside 0..{count}"
  | .invalidVelocity velocity => s!"velocity {velocity} is outside 1..=127"
  | .loadFailed path fault =>
      "failed to load instrument bank " ++ quote path ++ ": " ++
        fault.message
  | .unknownBank id => s!"no instrument bank with id {id.number}"
  | .bankInUse id => s!"instrument bank {id.number} is still in use"
  | .outOfBanks limit => s!"cannot load more than {limit} instrument banks"
  | .noSuchPreset id bankNumber program =>
      s!"bank {id.number} has no preset {bankNumber}:{program}"
  | .deviceUnavailable fault =>
      "audio device unavailable: " ++ fault.message

end SynthError

end Polyphony
