import Polyphony.Error
import Polyphony.Number.Rounding
import Polyphony.Sound.Interpolation
import Polyphony.Text.Numeral

namespace Polyphony

/-!
# Configuration

The parameters that a synthesizer and an audio output take from a store of
settings.  Names without a value get a default.  All values are read before any
is checked: first the kinds and the interpolation word in reading order, then
the ranges.
-/

open Number (narrow)
open Sound (Interpolation)

/-- The parameters of a synthesizer. -/
structure SynthConfiguration where
  sampleRate : Float32
  channels : Nat
  polyphony : Nat
  gain : Float32
  maxBanks : Nat
  interpolation : Interpolation
  deriving DecidableEq

/-- The parameters of an audio output. -/
structure OutputConfiguration where
  driver : String
  device : String
  periodSize : Nat
  deriving Repr, DecidableEq

namespace ConfigurationDefault

/-- Frames per second. -/
def sampleRate : Float := 44100

/-- How many channels there are. -/
def midiChannels : Int := 16

/-- How many voices can sound at once. -/
def polyphony : Int := 256

/-- The master gain. -/
def gain : Float := 0.2

/-- How many banks can be loaded at once. -/
def maxBanks : Int := 16

/-- The word of the interpolation method. -/
def interpolation : String := "linear"

/-- The name that stands for the usual audio host. -/
def audioDriver : String := "default"

/-- The name that stands for the usual output device. -/
def audioDevice : String := "default"

/-- How many frames the device asks for at a time. -/
def periodSize : Int := 512

end ConfigurationDefault

/-- What a synthesizer reads from its settings, before any range is checked. -/
structure SynthReading where
  sampleRate : Float
  channels : Int
  polyphony : Int
  gain : Float
  maxBanks : Int
  interpolation : Interpolation
  deriving DecidableEq

/-- A mistyped setting, as a fault of the configuration. -/
def mistypedFault
    (reading : Except MistypedSetting Value) :
    Except ConfigurationFault Value :=
  reading.mapError .mistyped

/-- The interpolation method of a word. -/
def requireInterpolation
    (word : String) :
    Except ConfigurationFault Interpolation :=
  match Interpolation.ofWord? word with
  | some method => .ok method
  | none => .error (.unknownInterpolation word)

namespace SynthReading

/-- Read the six settings of a synthesizer, in their order. -/
def ofSettings
    (settings : Settings) :
    Except ConfigurationFault SynthReading := do
  let sampleRate ← mistypedFault <|
    settings.numberOr SettingName.sampleRate ConfigurationDefault.sampleRate
  let channels ← mistypedFault <|
    settings.integerOr SettingName.midiChannels
      ConfigurationDefault.midiChannels
  let polyphony ← mistypedFault <|
    settings.integerOr SettingName.polyphony ConfigurationDefault.polyphony
  let gain ← mistypedFault <|
    settings.numberOr SettingName.gain ConfigurationDefault.gain
  let maxBanks ← mistypedFault <|
    settings.integerOr SettingName.maxBanks ConfigurationDefault.maxBanks
  let word ← mistypedFault <|
    settings.textOr SettingName.interpolation
      ConfigurationDefault.interpolation
  let interpolation ← requireInterpolation word
  return { sampleRate, channels, polyphony, gain, maxBanks, interpolation }

/-- The first value that is out of its range. -/
def fault? (reading : SynthReading) : Option ConfigurationFault :=
  if !(8000 ≤ reading.sampleRate && reading.sampleRate ≤ 192000) then
    some (.sampleRate reading.sampleRate)
  else if !(1 ≤ reading.channels && reading.channels ≤ 256) then
    some (.channelCount reading.channels)
  else if !(1 ≤ reading.polyphony && reading.polyphony ≤ 65535) then
    some (.polyphony reading.polyphony)
  else if !(0 ≤ reading.gain && reading.gain ≤ 10) then
    some (.gain reading.gain)
  else if reading.maxBanks < 1 then
    some (.maxBanks reading.maxBanks)
  else
    none

/-- The configuration of values that are in their ranges. -/
def configuration (reading : SynthReading) : SynthConfiguration where
  sampleRate := narrow reading.sampleRate
  channels := reading.channels.toNat
  polyphony := reading.polyphony.toNat
  gain := narrow reading.gain
  maxBanks := reading.maxBanks.toNat
  interpolation := reading.interpolation

end SynthReading

namespace SynthConfiguration

/-- The configuration of a synthesizer with these settings. -/
def ofSettings
    (settings : Settings) :
    Except SynthError SynthConfiguration :=
  match SynthReading.ofSettings settings with
  | .error fault => .error (.invalidConfiguration fault)
  | .ok reading =>
      match reading.fault? with
      | some fault => .error (.invalidConfiguration fault)
      | none => .ok reading.configuration

/-- A structured description of a configuration. -/
def describe (configuration : SynthConfiguration) : String :=
  "SynthConfig \x7b sample_rate: " ++
    Text.describeNumber configuration.sampleRate ++
    ", channels: " ++ toString configuration.channels ++
    ", polyphony: " ++ toString configuration.polyphony ++
    ", gain: " ++ Text.describeNumber configuration.gain ++
    ", max_banks: " ++ toString configuration.maxBanks ++
    ", interpolation: " ++ configuration.interpolation.name ++ " \x7d"

end SynthConfiguration

namespace OutputConfiguration

/-- Read and check the three settings of an audio output. -/
def reading
    (settings : Settings) :
    Except ConfigurationFault OutputConfiguration := do
  let driver ← mistypedFault <|
    settings.textOr SettingName.audioDriver ConfigurationDefault.audioDriver
  let device ← mistypedFault <|
    settings.textOr SettingName.audioDevice ConfigurationDefault.audioDevice
  let periodSize ← mistypedFault <|
    settings.integerOr SettingName.periodSize ConfigurationDefault.periodSize
  if 16 ≤ periodSize && periodSize ≤ 8192 then
    return { driver, device, periodSize := periodSize.toNat }
  else
    throw (.periodSize periodSize)

/-- The configuration of an audio output with these settings. -/
def ofSettings
    (settings : Settings) :
    Except SynthError OutputConfiguration :=
  (reading settings).mapError .invalidConfiguration

end OutputConfiguration

end Polyphony
