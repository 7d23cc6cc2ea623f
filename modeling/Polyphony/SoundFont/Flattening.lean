import Polyphony.Instrument.Bank
import Polyphony.Number.Extremum
import Polyphony.Sound.Mixing
import Polyphony.SoundFont.Region

namespace Polyphony.SoundFont

/-!
# From fonts to banks

Each pair of a preset's region and a region of its instrument becomes one zone.
The zone sounds where both regions do; tunings and attenuations of the two are
added, and envelope times are multiplied.  A pair that has nothing to play, or
no key or velocity in common, gives no zone.

Tunings are numbers of 32 bits, and their sums may need more.  A program is built
to go on with the low bits of such a sum, or to stop at it.  What it makes of a font
is defined for both, the first on its own as well.
-/

open Instrument (Bank BankDraft BankFault LoopMode Preset PresetSummary
  Recording Span Zone)
open Number (Transcendental clamp)
open Sound (EnvelopeParameters decibelGain)

/-- An integer moved into the interval from `low` to `high`. -/
def clampInt
    (low high value : Int) :
    Int :=
  max low (min high value)

/-- The numbers from 0 to 127 in both ranges, if there are any. -/
def intersect?
    (first second : FontRange) :
    Option Span :=
  let low := clampInt 0 127 (max first.low second.low)
  let high := clampInt 0 127 (min first.high second.high)
  if low ≤ high then
    some ⟨low.toNat, high.toNat⟩
  else
    none

/-- The recording of a region at a rate, if it has samples and a rate. -/
def recording?
    (region : InstrumentRegion)
    (header : SampleHeader) :
    Option Recording :=
  let start := region.start.toNat
  let stop := region.stop.toNat
  let sampleRate := header.sampleRate.toNat
  if stop ≤ start || sampleRate = 0 then
    none
  else
    some {
      start
      stop
      loopStart := region.loopStart.toNat
      loopStop := region.loopStop.toNat
      sampleRate
    }

/-- The loop mode of a zone for that of a font. -/
def zoneLoopMode : FontLoopMode → LoopMode
  | .noLoop => .noLoop
  | .continuous => .continuous
  | .untilNoteOff => .untilRelease

/-- The envelope of two regions together. -/
def combinedEnvelope
    [Transcendental]
    (preset instrument : FontEnvelope) :
    EnvelopeParameters where
  delay := instrument.delay * preset.delay
  attack := instrument.attack * preset.attack
  hold := instrument.hold * preset.hold
  decay := instrument.decay * preset.decay
  sustain := decibelGain (instrument.sustain + preset.sustain)
  release := instrument.release * preset.release

/-- What a program does at a sum that does not fit in 32 bits. -/
inductive Overflow where
  /-- It goes on with the low bits of the sum. -/
  | wraps
  /-- It stops. -/
  | traps
  deriving Repr, DecidableEq

/-- Whether the sum of two numbers does not fit in 32 bits. -/
def sumOverflows (first second : Int32) : Bool :=
  first.toInt + second.toInt < -2147483648 ||
    2147483647 < first.toInt + second.toInt

/-- Whether a sum of the tunings of two regions does not fit in 32 bits. -/
def tuningOverflows
    (preset : PresetRegion)
    (instrument : InstrumentRegion) :
    Bool :=
  sumOverflows instrument.coarseTuning preset.coarseTuning ||
    sumOverflows instrument.fineTuning preset.fineTuning ||
    sumOverflows instrument.keyScaling preset.keyScaling

/-- The tuning of two regions together, in cents.  Sums wrap around. -/
def combinedTuning
    (preset : PresetRegion)
    (instrument : InstrumentRegion) :
    Float32 :=
  100 * Float32.ofInt (instrument.coarseTuning + preset.coarseTuning).toInt +
    Float32.ofInt (instrument.fineTuning + preset.fineTuning).toInt

/-- The zone of a pair of regions, if it can sound.  Sums wrap around. -/
def zone?
    [Transcendental]
    (headers : List SampleHeader)
    (preset : PresetRegion)
    (instrument : InstrumentRegion) :
    Option Zone := do
  let keys ← intersect? preset.keys instrument.keys
  let velocities ← intersect? preset.velocities instrument.velocities
  let header ← headers[instrument.sample]?
  let recording ← recording? instrument header
  return {
    keys
    velocities
    recording
    loopMode := zoneLoopMode instrument.loopMode
    rootKey := (clampInt 0 127 instrument.rootKey).toNat
    tuning := combinedTuning preset instrument
    keyScaling :=
      Float32.ofInt (instrument.keyScaling + preset.keyScaling).toInt
    attenuation := instrument.attenuation + preset.attenuation
    pan := clamp (-1) 1 ((instrument.pan + preset.pan) / 50)
    envelope := combinedEnvelope preset.envelope instrument.envelope
  }

/--
The zone of a pair of regions, if it can sound; nothing at all if the program stops
at its tunings, which are added last.
-/
def zoneOn?
    [Transcendental]
    (overflow : Overflow)
    (headers : List SampleHeader)
    (preset : PresetRegion)
    (instrument : InstrumentRegion) :
    Option (Option Zone) :=
  match zone? headers preset instrument with
  | none => some none
  | some zone =>
      if overflow = .traps && tuningOverflows preset instrument then
        none
      else
        some (some zone)

namespace Font

/-- The zones of one region of a preset, in the order of its instrument. -/
def zonesOf
    [Transcendental]
    (font : Font)
    (region : PresetRegion) :
    List Zone :=
  (font.instruments[region.instrument]?.getD []).filterMap
    (zone? font.headers region)

/-- A preset of a bank for one of the font. -/
def flattenPreset
    [Transcendental]
    (font : Font)
    (preset : FontPreset) :
    Preset where
  name := preset.name
  bankNumber := (clampInt 0 65535 preset.bankNumber).toNat
  program := (clampInt 0 127 preset.program).toNat
  zones := preset.regions.flatMap font.zonesOf

/-- The draft of a bank with all presets of the font, in order. -/
def draft
    [Transcendental]
    (name : String)
    (font : Font) :
    BankDraft where
  name := name
  samples := font.pool
  presets := font.presets.map font.flattenPreset

/-- The bank of a font, or the first fault among its zones. -/
def flatten
    [Transcendental]
    (name : String)
    (font : Font) :
    Except BankFault Bank :=
  (font.draft name).build

/-! ## Programs that may stop -/

/-- The zones of one region, unless the program stops at one of them. -/
def zonesOn?
    [Transcendental]
    (overflow : Overflow)
    (font : Font)
    (region : PresetRegion) :
    Option (List Zone) := do
  let parts := font.instruments[region.instrument]?.getD []
  let zones ← parts.mapM (zoneOn? overflow font.headers region)
  return zones.filterMap id

/-- A preset of a bank, unless the program stops at one of its zones. -/
def flattenPresetOn?
    [Transcendental]
    (overflow : Overflow)
    (font : Font)
    (preset : FontPreset) :
    Option Preset := do
  let zones ← preset.regions.mapM (font.zonesOn? overflow)
  return { font.flattenPreset preset with zones := zones.flatten }

/-- The bank of a font or the first fault, unless the program stops before. -/
def flattenOn?
    [Transcendental]
    (overflow : Overflow)
    (name : String)
    (font : Font) :
    Option (Except BankFault Bank) := do
  let presets ← font.presets.mapM (font.flattenPresetOn? overflow)
  return { font.draft name with presets := presets : BankDraft }.build

/-- The presets that flattening the font makes, whether or not it succeeds. -/
def flattened
    [Transcendental]
    (font : Font) :
    List PresetSummary :=
  font.presets.map fun preset => (font.flattenPreset preset).summary

end Font

end Polyphony.SoundFont
