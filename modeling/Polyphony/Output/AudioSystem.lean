namespace Polyphony.Output

/-!
# Audio systems

What an audio output sees of the machine it runs on: the audio hosts and the
output devices, and how each of them reacts to being used.
-/

/-- An audio host, which may be listed without being usable. -/
structure AudioHost where
  name : String
  usable : Bool
  deriving Repr, DecidableEq

/-- The kinds of numbers that a device takes. -/
inductive SampleFormat where
  | signed8
  | signed16
  | signed32
  | unsigned8
  | unsigned16
  | float32
  | float64
  deriving Repr, DecidableEq

namespace SampleFormat

/-- The name of a format. -/
def name : SampleFormat → String
  | .signed8 => "I8"
  | .signed16 => "I16"
  | .signed32 => "I32"
  | .unsigned8 => "U8"
  | .unsigned16 => "U16"
  | .float32 => "F32"
  | .float64 => "F64"

end SampleFormat

/-- An output device.  Each fault, where there is one, is the device's own text. -/
structure AudioDevice where
  /-- The name of the device, unless it cannot be asked for. -/
  name? : Option String
  channels : Nat
  format : SampleFormat
  configurationFault? : Option String
  fixedPeriodFault? : Option String
  defaultPeriodFault? : Option String
  playFault? : Option String
  pauseFault? : Option String
  deriving Repr, DecidableEq

/-- The hosts and devices of a machine. -/
structure AudioSystem where
  hosts : List AudioHost
  devices : List AudioDevice
  /-- The position of the default output device. -/
  default? : Option Nat
  /-- Why the devices cannot be listed, if they cannot. -/
  listingFault? : Option String
  deriving Repr, DecidableEq

namespace AudioSystem

/-- The names of the hosts. -/
def hostNames (system : AudioSystem) : List String :=
  system.hosts.map (·.name)

/-- The default output device. -/
def defaultDevice? (system : AudioSystem) : Option AudioDevice :=
  system.default?.bind (system.devices[·]?)

end AudioSystem

end Polyphony.Output
