import Polyphony.Number.Transcendental
import Polyphony.SoundFont.File

namespace Polyphony.SoundFont

/-!
# Regions of a font

A font that has been read is made of regions.  A preset's regions refer to
instruments, an instrument's regions to recordings, and each carries its
settings as numbers of their own units: seconds, decibels, percent, semitones
and cents.  What a preset states is relative to what its instruments state.
-/

open Number (Transcendental)

/-- How a font says that a recording loops. -/
inductive FontLoopMode where
  | noLoop
  | continuous
  | untilNoteOff
  deriving Repr, DecidableEq

/-- The two ends of a range as a font states them. -/
structure FontRange where
  low : Int
  high : Int
  deriving Repr, DecidableEq

/-- The times of an envelope, or factors on them, and its sustain attenuation. -/
structure FontEnvelope where
  delay : Float32
  attack : Float32
  hold : Float32
  decay : Float32
  sustain : Float32
  release : Float32
  deriving DecidableEq

/-- A part of an instrument that plays one recording. -/
structure InstrumentRegion where
  keys : FontRange
  velocities : FontRange
  sample : Nat
  start : Int
  stop : Int
  loopStart : Int
  loopStop : Int
  loopMode : FontLoopMode
  rootKey : Int
  coarseTuning : Int32
  fineTuning : Int32
  keyScaling : Int32
  attenuation : Float32
  pan : Float32
  envelope : FontEnvelope
  deriving DecidableEq

/-- A part of a preset that plays one instrument. -/
structure PresetRegion where
  keys : FontRange
  velocities : FontRange
  instrument : Nat
  coarseTuning : Int32
  fineTuning : Int32
  keyScaling : Int32
  attenuation : Float32
  pan : Float32
  envelope : FontEnvelope
  deriving DecidableEq

/-- A preset that has been read. -/
structure FontPreset where
  name : String
  program : Int
  bankNumber : Int
  regions : List PresetRegion
  deriving DecidableEq

/-- A font that has been read. -/
structure Font where
  pool : Array Int16
  headers : List SampleHeader
  instruments : List (List InstrumentRegion)
  presets : List FontPreset
  deriving DecidableEq

/-- Two to the power of a number of cents of an octave. -/
def timecents
    [Transcendental]
    (value : Int) :
    Float32 :=
  Transcendental.power 2 ((1.0 / 1200.0) * Float32.ofInt value)

/-- A number of tenths. -/
def tenths (value : Int) : Float32 :=
  0.1 * Float32.ofInt value

/-- The range of a value that holds both ends, the low one in its low byte. -/
def packedRange (value : Int) : FontRange :=
  ⟨value % 256, value / 256 % 256⟩

/-- The value of a range that covers every key or velocity. -/
def fullRange : Int := 0x7F00

/-- The loop mode of its number in a file. -/
def loopModeOf (value : Int) : FontLoopMode :=
  if value = 1 then
    .continuous
  else if value = 3 then
    .untilNoteOff
  else
    .noLoop

/-- The envelope of some settings, with one default for all times. -/
def envelopeOf
    [Transcendental]
    (unset : Int)
    (settings : SettingList) :
    FontEnvelope where
  delay := timecents (settings.value Generator.delay unset)
  attack := timecents (settings.value Generator.attack unset)
  hold := timecents (settings.value Generator.hold unset)
  decay := timecents (settings.value Generator.decay unset)
  sustain := tenths (settings.value Generator.sustain 0)
  release := timecents (settings.value Generator.release unset)

/-- An offset of which one setting counts samples and one 32768 of them. -/
def offsetOf
    (coarse fine : Nat)
    (settings : SettingList) :
    Int :=
  32768 * settings.value coarse 0 + settings.value fine 0

/-- The part of an instrument that settings and a recording describe. -/
def instrumentRegion
    [Transcendental]
    (settings : SettingList)
    (sample : Nat)
    (header : SampleHeader) :
    InstrumentRegion where
  keys := packedRange (settings.value Generator.keyRange fullRange)
  velocities := packedRange (settings.value Generator.velocityRange fullRange)
  sample := sample
  start :=
    header.start +
      offsetOf Generator.startCoarseOffset Generator.startOffset settings
  stop :=
    header.stop +
      offsetOf Generator.stopCoarseOffset Generator.stopOffset settings
  loopStart :=
    header.loopStart +
      offsetOf Generator.loopStartCoarseOffset Generator.loopStartOffset
        settings
  loopStop :=
    header.loopStop +
      offsetOf Generator.loopStopCoarseOffset Generator.loopStopOffset settings
  loopMode := loopModeOf (settings.value Generator.loopMode 0)
  rootKey :=
    let stated := settings.value Generator.rootKey (-1)
    if stated = -1 then header.pitch else stated
  coarseTuning := .ofInt (settings.value Generator.coarseTuning 0)
  fineTuning :=
    .ofInt (settings.value Generator.fineTuning 0 + header.correction)
  keyScaling := .ofInt (settings.value Generator.keyScaling 100)
  attenuation := tenths (settings.value Generator.attenuation 0)
  pan := tenths (settings.value Generator.pan 0)
  envelope := envelopeOf (-12000) settings

/-- The part of a preset that settings describe. -/
def presetRegion
    [Transcendental]
    (settings : SettingList)
    (instrument : Nat) :
    PresetRegion where
  keys := packedRange (settings.value Generator.keyRange fullRange)
  velocities := packedRange (settings.value Generator.velocityRange fullRange)
  instrument := instrument
  coarseTuning := .ofInt (settings.value Generator.coarseTuning 0)
  fineTuning := .ofInt (settings.value Generator.fineTuning 0)
  keyScaling := .ofInt (settings.value Generator.keyScaling 0)
  attenuation := tenths (settings.value Generator.attenuation 0)
  pan := tenths (settings.value Generator.pan 0)
  envelope := envelopeOf 0 settings

namespace Font

/-- The element that a stored number refers to; a negative one to nothing. -/
def referred?
    (elements : List Element)
    (reference : Int) :
    Option (Nat × Element) :=
  if 0 ≤ reference then
    elements[reference.toNat]?.map fun element => (reference.toNat, element)
  else
    none

/-- The parts of an instrument, unless one refers to no recording. -/
def instrumentOf?
    [Transcendental]
    (headers : List SampleHeader)
    (instrument : FileInstrument) :
    Option (List InstrumentRegion) :=
  (SettingList.regions Generator.sample instrument.zones).mapM
    fun settings =>
      (referred? headers (settings.value Generator.sample 0)).map
        fun (sample, header) => instrumentRegion settings sample header

/-- The characters of a name: a file has room for twenty bytes, up to a zero. -/
def nameOf (name : String) : String :=
  let bytes := (name.toUTF8.toList.take 20).takeWhile (· ≠ 0)
  String.ofList <| bytes.map fun byte =>
    if 9 ≤ byte && byte ≤ 126 then Char.ofNat byte.toNat else '?'

/-- A preset, unless one of its parts refers to no instrument. -/
def presetOf?
    [Transcendental]
    (instruments : List FileInstrument)
    (preset : FilePreset) :
    Option FontPreset :=
  let regions? :=
    (SettingList.regions Generator.instrument preset.zones).mapM
      fun settings =>
        (referred? instruments (settings.value Generator.instrument 0)).map
          fun (instrument, _) => presetRegion settings instrument
  regions?.map fun regions =>
    {
      name := nameOf preset.name
      program := preset.program
      bankNumber := preset.bankNumber
      regions := regions
    }

/-- Whether a part of an instrument stays within a pool of samples. -/
def liesWithin
    (poolSize : Nat)
    (region : InstrumentRegion) :
    Bool :=
  0 ≤ region.start && 0 ≤ region.loopStart &&
    0 ≤ region.stop && region.stop < poolSize &&
    0 ≤ region.loopStop && region.loopStop < poolSize &&
    region.start < region.stop

/-- Whether the pool holds compressed data, which starts with a word of its own. -/
def isCompressed (pool : Array Int16) : Bool :=
  pool[0]? = some 0x674F && pool[1]? = some 0x5367

/-- Whether a file has all the lists that a font needs, none of them empty. -/
def isComplete (file : FontFile) : Bool :=
  2 ≤ file.pool.size && !isCompressed file.pool &&
    !file.instruments.isEmpty && !file.presets.isEmpty &&
    file.instruments.all (!·.zones.isEmpty) &&
    file.presets.all (!·.zones.isEmpty)

/--
The font of a file, if the file is one.  This is the reader that a running program
is given; what is made of fonts does not depend on who has read them.
-/
def ofFile?
    [Transcendental]
    (file : FontFile) :
    Option Font := do
  guard (isComplete file)
  let instruments ← file.instruments.mapM (instrumentOf? file.headers)
  let presets ← file.presets.mapM (presetOf? file.instruments)
  guard (instruments.flatten.all (liesWithin file.pool.size))
  return { pool := file.pool, headers := file.headers, instruments, presets }

end Font

end Polyphony.SoundFont
