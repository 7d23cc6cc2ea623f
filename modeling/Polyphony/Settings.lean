namespace Polyphony

/-!
# Settings

A store of named values that is consulted when a synthesizer or an audio output
is set up.  It knows which names are recognized and what kind of value each of
them takes; the defaults belong to whoever reads the store.  Values of other
names are kept as they are given.
-/

/-- The kinds of setting values. -/
inductive SettingKind where
  | text
  | number
  | integer
  deriving Repr, DecidableEq

namespace SettingKind

/-- The word for a kind in messages. -/
def word : SettingKind → String
  | .text => "string"
  | .number => "number"
  | .integer => "integer"

end SettingKind

/-- The value of a setting. -/
inductive SettingValue where
  | text (value : String)
  | number (value : Float)
  | integer (value : Int)
  deriving DecidableEq

namespace SettingValue

/-- The kind of a value. -/
def kind : SettingValue → SettingKind
  | .text _ => .text
  | .number _ => .number
  | .integer _ => .integer

/-- The text of a value of that kind. -/
def text? : SettingValue → Option String
  | .text value => some value
  | _ => none

/-- The number of a value of that kind. -/
def number? : SettingValue → Option Float
  | .number value => some value
  | _ => none

/-- The integer of a value of that kind. -/
def integer? : SettingValue → Option Int
  | .integer value => some value
  | _ => none

end SettingValue

namespace SettingName

/-- Frames per second. -/
def sampleRate : String := "synth.sample-rate"

/-- How many channels there are. -/
def midiChannels : String := "synth.midi-channels"

/-- How many voices can sound at once. -/
def polyphony : String := "synth.polyphony"

/-- The master gain. -/
def gain : String := "synth.gain"

/-- How many banks can be loaded at once. -/
def maxBanks : String := "synth.max-banks"

/-- The word of the interpolation method. -/
def interpolation : String := "synth.interpolation"

/-- The name of the audio host. -/
def audioDriver : String := "audio.driver"

/-- The name of the output device. -/
def audioDevice : String := "audio.device"

/-- How many frames the device asks for at a time. -/
def periodSize : String := "audio.period-size"

/-- The recognized names, each with the kind of value that it takes. -/
def recognized : List (String × SettingKind) :=
  [(sampleRate, .number),
   (midiChannels, .integer),
   (polyphony, .integer),
   (gain, .number),
   (maxBanks, .integer),
   (interpolation, .text),
   (audioDriver, .text),
   (audioDevice, .text),
   (periodSize, .integer)]

/-- The kind of value that a name takes, if it is recognized. -/
def expectedKind? (name : String) : Option SettingKind :=
  recognized.lookup name

end SettingName

/-- A value was refused: its name takes values of another kind. -/
structure SettingRefusal where
  name : String
  expected : SettingKind
  deriving Repr, DecidableEq

/-- A reader found a value of another kind than the name takes. -/
structure MistypedSetting where
  name : String
  found : SettingKind
  expected : SettingKind
  deriving Repr, DecidableEq

/-- Named values, in the order of their names, with no name twice. -/
structure Settings where
  entries : List (String × SettingValue)
  deriving DecidableEq

namespace Settings

/-- The store without values. -/
def empty : Settings :=
  ⟨[]⟩

/-- Put an entry in its place, over the one of the same name if there is one. -/
def putEntry
    (name : String)
    (value : SettingValue) :
    List (String × SettingValue) → List (String × SettingValue)
  | [] => [(name, value)]
  | entry :: rest =>
      if name = entry.1 then
        (name, value) :: rest
      else if name < entry.1 then
        (name, value) :: entry :: rest
      else
        entry :: putEntry name value rest

/-- Give a name a value, whatever its kind. -/
def put
    (name : String)
    (value : SettingValue)
    (settings : Settings) :
    Settings :=
  ⟨putEntry name value settings.entries⟩

/-- A store of the given entries as they are; of one name the last counts. -/
def ofEntries
    (entries : List (String × SettingValue)) :
    Settings :=
  entries.foldl
    (fun settings entry => settings.put entry.1 entry.2)
    empty

/-- Give a name a value, unless the name takes values of another kind. -/
def set
    (name : String)
    (value : SettingValue)
    (settings : Settings) :
    Except SettingRefusal Settings :=
  match SettingName.expectedKind? name with
  | some expected =>
      if value.kind = expected then
        .ok (settings.put name value)
      else
        .error ⟨name, expected⟩
  | none => .ok (settings.put name value)

/-- The value of a name. -/
def get?
    (name : String)
    (settings : Settings) :
    Option SettingValue :=
  settings.entries.lookup name

/-- The text of a name, if it has a text. -/
def text?
    (name : String)
    (settings : Settings) :
    Option String :=
  (settings.get? name).bind SettingValue.text?

/-- The number of a name, if it has a number. -/
def number?
    (name : String)
    (settings : Settings) :
    Option Float :=
  (settings.get? name).bind SettingValue.number?

/-- The integer of a name, if it has an integer. -/
def integer?
    (name : String)
    (settings : Settings) :
    Option Int :=
  (settings.get? name).bind SettingValue.integer?

/-- Refuse to read a name that has a value of another kind. -/
def requireKind
    (name : String)
    (expected : SettingKind)
    (settings : Settings) :
    Except MistypedSetting Unit :=
  match settings.get? name with
  | some value =>
      if value.kind = expected then
        .ok ()
      else
        .error ⟨name, value.kind, expected⟩
  | none => .ok ()

/-- The text of a name, or a default where it has no value. -/
def textOr
    (name default : String)
    (settings : Settings) :
    Except MistypedSetting String := do
  settings.requireKind name .text
  return (settings.text? name).getD default

/-- The number of a name, or a default where it has no value. -/
def numberOr
    (name : String)
    (default : Float)
    (settings : Settings) :
    Except MistypedSetting Float := do
  settings.requireKind name .number
  return (settings.number? name).getD default

/-- The integer of a name, or a default where it has no value. -/
def integerOr
    (name : String)
    (default : Int)
    (settings : Settings) :
    Except MistypedSetting Int := do
  settings.requireKind name .integer
  return (settings.integer? name).getD default

end Settings

end Polyphony
