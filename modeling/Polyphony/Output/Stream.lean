import Polyphony.Configuration
import Polyphony.Log
import Polyphony.Output.AudioSystem
import Polyphony.Output.Filling

namespace Polyphony.Output

/-!
# Output streams

A stream is opened in steps, each of which can fail: find the host, find the
device, ask how it is set up, build the stream and start it.  A device that
refuses the period of the configuration is asked again with its own.
-/

open Engine (Synth)

/-- The word that stands for the usual host, and for the usual device. -/
def defaultWord : String := "default"

/-- The name of the host that is always there. -/
def defaultHostName : String := "DefaultHost"

/-- What a device is asked to run with; without a period, with its own. -/
structure StreamRequest where
  channels : Nat
  sampleRate : Nat
  periodSize? : Option Nat
  deriving Repr, DecidableEq

/-- A stream that is running. -/
structure Stream where
  configuration : OutputConfiguration
  deviceName : String
  device : AudioDevice
  deriving Repr, DecidableEq

/-- What came of opening a stream, and what was tried and told on the way. -/
structure Opening where
  result : Except SynthError Stream
  requests : List StreamRequest
  log : List LogEvent

/-- The error of a device that gives a text of its own. -/
def deviceError (text : String) : SynthError :=
  .deviceUnavailable (.described text)

/-- Fail with a device's text, if it gives one. -/
def require (fault? : Option String) : Except SynthError Unit :=
  match fault? with
  | some text => .error (deviceError text)
  | none => .ok ()

/-- A text with its capital letters of the alphabet made small. -/
def lowerCase (text : String) : String :=
  text.map Char.toLower

namespace AudioSystem

/-- The name of a usable host, where letters match in either case. -/
def openHost
    (name : String)
    (system : AudioSystem) :
    Except SynthError String :=
  if name = defaultWord then
    .ok defaultHostName
  else
    match system.hosts.find? (lowerCase ·.name = lowerCase name) with
    | none => .error (.deviceUnavailable (.noHost name))
    | some host =>
        if host.usable then
          .ok host.name
        else
          .error (deviceError "the requested host is unavailable")

/-- The device of a name. -/
def openDevice
    (name : String)
    (system : AudioSystem) :
    Except SynthError AudioDevice :=
  if name = defaultWord then
    match system.defaultDevice? with
    | some device => .ok device
    | none => .error (.deviceUnavailable .noDefaultDevice)
  else
    match system.listingFault? with
    | some text => .error (deviceError text)
    | none =>
        match system.devices.find? (·.name? = some name) with
        | some device => .ok device
        | none => .error (.deviceUnavailable (.noDevice name))

end AudioSystem

/-- Whether buffers of a format can be filled. -/
def isSupported : SampleFormat → Bool
  | .signed16 => true
  | .unsigned16 => true
  | .float32 => true
  | _ => false

/-- Fail for a format whose buffers cannot be filled. -/
def requireFormat (format : SampleFormat) : Except SynthError Unit :=
  if isSupported format then
    .ok ()
  else
    .error (.deviceUnavailable (.unsupportedFormat format.name))

/-- What is found before a stream is built. -/
structure Preparation where
  configuration : OutputConfiguration
  hostName : String
  device : AudioDevice
  deriving Repr, DecidableEq

namespace Preparation

/-- Find the host and the device of some settings, and check the device. -/
def ofSettings
    (system : AudioSystem)
    (settings : Settings) :
    Except SynthError Preparation := do
  let configuration ← OutputConfiguration.ofSettings settings
  let hostName ← system.openHost configuration.driver
  let device ← system.openDevice configuration.device
  require device.configurationFault?
  requireFormat device.format
  return { configuration, hostName, device }

/-- The name of the device; one that cannot be asked for it is called as set. -/
def deviceName (preparation : Preparation) : String :=
  preparation.device.name?.getD preparation.configuration.device

/-- The request for a period, or for the device's own. -/
def request
    (sampleRate : Nat)
    (periodSize? : Option Nat)
    (preparation : Preparation) :
    StreamRequest where
  channels := preparation.device.channels
  sampleRate := sampleRate
  periodSize? := periodSize?

/-- Build a stream: its requests, its events, and whether it could be built. -/
def build
    (sampleRate : Nat)
    (preparation : Preparation) :
    Except SynthError Unit × List StreamRequest × List LogEvent :=
  let periodSize := preparation.configuration.periodSize
  let fixed := preparation.request sampleRate (some periodSize)
  match preparation.device.fixedPeriodFault? with
  | none => (.ok (), [fixed], [])
  | some _ =>
      (require preparation.device.defaultPeriodFault?,
        [fixed, preparation.request sampleRate none],
        [.fixedPeriodRejected periodSize])

/-- The event of a stream that has been started. -/
def startedEvent
    (sampleRate : Nat)
    (preparation : Preparation) :
    LogEvent :=
  .streamStarted preparation.hostName preparation.deviceName
    preparation.device.channels sampleRate
    preparation.configuration.periodSize

/-- The stream of a device that runs. -/
def stream (preparation : Preparation) : Stream where
  configuration := preparation.configuration
  deviceName := preparation.deviceName
  device := preparation.device

/-- Build a stream and start it. -/
def run
    (sampleRate : Nat)
    (preparation : Preparation) :
    Opening :=
  let (built, requests, log) := preparation.build sampleRate
  match built with
  | .error error => ⟨.error error, requests, log⟩
  | .ok _ =>
      match require preparation.device.playFault? with
      | .error error => ⟨.error error, requests, log⟩
      | .ok _ =>
          ⟨.ok preparation.stream, requests,
            log ++ [preparation.startedEvent sampleRate]⟩

end Preparation

namespace Stream

/-- Open a stream that plays a synthesizer. -/
def start
    (system : AudioSystem)
    (settings : Settings)
    (synth : Synth) :
    Opening :=
  match Preparation.ofSettings system settings with
  | .error error => ⟨.error error, [], []⟩
  | .ok preparation =>
      preparation.run synth.configuration.sampleRate.toUInt32.toNat

/-- Stop a stream for a while. -/
def pause (stream : Stream) : Except SynthError Unit :=
  require stream.device.pauseFault?

/-- Let a stream go on. -/
def play (stream : Stream) : Except SynthError Unit :=
  require stream.device.playFault?

end Stream

end Polyphony.Output
