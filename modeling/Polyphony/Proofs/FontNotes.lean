import Mathlib.Data.List.Forall2
import Polyphony.Proofs.BankDrafts
import Polyphony.SoundFont.Flattening

/-!
# The notes of a font

A flattened preset sounds, for a note, one zone for each pair of a region of the
preset and a part of its instrument that the note lies in, in order.  A range is
first moved into the range of keys, though, and this makes a difference for the
outermost keys and velocities: a range that lies wholly above them is taken for
the highest one, and a range below them for the lowest.
-/

namespace Polyphony.SoundFont

open Instrument (Bank BankDraft Preset Recording Span Zone)
open Number (Transcendental)

/-! ## Ranges -/

namespace FontRange

/-- Whether a number lies between the two ends of the range. -/
def contains
    (number : Nat)
    (range : FontRange) :
    Bool :=
  range.low ≤ number && number ≤ range.high

/-- The range with both of its ends moved to a key. -/
def clamped (range : FontRange) : FontRange where
  low := clampInt 0 127 range.low
  high := clampInt 0 127 range.high

theorem contains_clamped_iff
    {number : Nat}
    {range : FontRange} :
    range.clamped.contains number ↔
      clampInt 0 127 range.low ≤ number ∧
        number ≤ clampInt 0 127 range.high := by
  simp only [contains, Bool.and_eq_true, decide_eq_true_eq]
  rfl

/--
To move the ends makes no difference for a number: it is not the highest one
while the range begins above that, nor the lowest while the range ends below.
-/
structure ReadsAsStated
    (number : Nat)
    (range : FontRange) : Prop where
  low : range.low ≤ 127 ∨ number ≠ 127
  high : 0 ≤ range.high ∨ number ≠ 0

theorem ReadsAsStated.contains_clamped
    {number : Nat}
    {range : FontRange}
    (reads : range.ReadsAsStated number)
    (isKey : number ≤ 127) :
    range.clamped.contains number = range.contains number := by
  obtain ⟨low, high⟩ := reads
  have sameLow : max 0 (min 127 range.low) ≤ number ↔ range.low ≤ number := by
    omega
  have sameHigh : (number : Int) ≤ max 0 (min 127 range.high) ↔
      (number : Int) ≤ range.high := by
    omega
  simp only [contains, clamped, clampInt, sameLow, sameHigh]

end FontRange

/-- The span that two ranges have in common, as far as it holds keys. -/
theorem any_contains_intersect?
    {number : Nat}
    (isKey : number ≤ 127)
    (first second : FontRange) :
    (intersect? first second).any (·.contains number) =
      (first.clamped.contains number && second.clamped.contains number) := by
  rw [Bool.eq_iff_iff]
  simp only [FontRange.contains_clamped_iff, Bool.and_eq_true]
  unfold intersect?
  by_cases meets :
      clampInt 0 127 (max first.low second.low) ≤
        clampInt 0 127 (min first.high second.high)
  · rw [if_pos meets]
    simp only [Option.any_some, Span.contains, Bool.and_eq_true,
      decide_eq_true_eq]
    unfold clampInt
    omega
  · rw [if_neg meets]
    unfold clampInt at meets ⊢
    simp only [Option.any_none, Bool.false_eq_true, false_iff]
    omega

/-! ## Pairs of regions -/

namespace Font

/-- The parts of the instrument of a region, if the font has the instrument. -/
def partsOf
    (font : Font)
    (region : PresetRegion) :
    List InstrumentRegion :=
  match font.instruments[region.instrument]? with
  | some parts => parts
  | none => []

/-- The regions of a preset with the parts of their instruments, in order. -/
def regionPairs
    (font : Font)
    (preset : FontPreset) :
    List (PresetRegion × InstrumentRegion) :=
  preset.regions.flatMap fun region =>
    (font.partsOf region).map fun part => (region, part)

/-- Whether a part has samples to play, and a header that tells their rate. -/
def hasSound
    (font : Font)
    (part : InstrumentRegion) :
    Bool :=
  part.start.toNat < part.stop.toNat &&
    font.headers[part.sample]?.any (0 < ·.sampleRate)

end Font

/-- Whether a note lies in all ranges of a pair, read in some way. -/
def holdsNote
    (read : FontRange → FontRange)
    (key velocity : Nat)
    (pair : PresetRegion × InstrumentRegion) :
    Bool :=
  (read pair.1.keys).contains key && (read pair.2.keys).contains key &&
    ((read pair.1.velocities).contains velocity &&
      (read pair.2.velocities).contains velocity)

/-- All ranges of a pair are as good as stated for a note. -/
structure PairReadsAsStated
    (key velocity : Nat)
    (pair : PresetRegion × InstrumentRegion) : Prop where
  presetKeys : pair.1.keys.ReadsAsStated key
  partKeys : pair.2.keys.ReadsAsStated key
  presetVelocities : pair.1.velocities.ReadsAsStated velocity
  partVelocities : pair.2.velocities.ReadsAsStated velocity

theorem PairReadsAsStated.holdsNote_clamped
    {key velocity : Nat}
    {pair : PresetRegion × InstrumentRegion}
    (reads : PairReadsAsStated key velocity pair)
    (isKey : key ≤ 127)
    (isVelocity : velocity ≤ 127) :
    holdsNote FontRange.clamped key velocity pair =
      holdsNote id key velocity pair := by
  simp only [holdsNote, id_eq, reads.presetKeys.contains_clamped isKey,
    reads.partKeys.contains_clamped isKey,
    reads.presetVelocities.contains_clamped isVelocity,
    reads.partVelocities.contains_clamped isVelocity]

/-! ## Zones of pairs -/

/-- A recording is made of a part exactly if the part has samples and a rate. -/
theorem isSome_recording?
    (part : InstrumentRegion)
    (header : SampleHeader) :
    (recording? part header).isSome =
      (decide (part.start.toNat < part.stop.toNat) &&
        decide (0 < header.sampleRate)) := by
  rw [Bool.eq_iff_iff]
  simp only [recording?, Bool.and_eq_true, Bool.or_eq_true, decide_eq_true_eq]
  split
  · simp only [Option.isSome_none, Bool.false_eq_true, false_iff]
    omega
  · simp only [Option.isSome_some, true_iff]
    omega

/-- What is kept of the things made was made of what it is kept for, in order. -/
theorem forall₂_filter_filterMap
    (make : Source → Option Product)
    (keep : Product → Bool)
    (sources : List Source) :
    List.Forall₂ (fun source product => make source = some product)
      (sources.filter fun source => (make source).any keep)
      ((sources.filterMap make).filter keep) := by
  induction sources with
  | nil => exact .nil
  | cons source rest inductionHypothesis =>
      cases made : make source with
      | none => simpa [made] using inductionHypothesis
      | some product =>
          by_cases kept : keep product
          · simpa [made, kept] using inductionHypothesis
          · simpa [made, kept] using inductionHypothesis

section

variable [Transcendental]

/-- The zone that is made of a pair, if one is. -/
def Font.zoneOf?
    (font : Font)
    (pair : PresetRegion × InstrumentRegion) :
    Option Zone :=
  zone? font.headers pair.1 pair.2

/-- A pair gives a zone that a note sounds, if it has sound and the note is in it. -/
theorem any_covers_zoneOf?
    {key velocity : Nat}
    (isKey : key ≤ 127)
    (isVelocity : velocity ≤ 127)
    (font : Font)
    (pair : PresetRegion × InstrumentRegion) :
    (font.zoneOf? pair).any (Zone.covers key velocity) =
      (holdsNote FontRange.clamped key velocity pair &&
        font.hasSound pair.2) := by
  rw [holdsNote, ← any_contains_intersect? isKey,
    ← any_contains_intersect? isVelocity, Font.hasSound, Font.zoneOf?, zone?]
  cases intersect? pair.1.keys pair.2.keys with
  | none => rfl
  | some keys =>
      cases intersect? pair.1.velocities pair.2.velocities with
      | none => simp
      | some velocities =>
          cases font.headers[pair.2.sample]? with
          | none => simp
          | some header =>
              rw [Option.any_some, Option.any_some, Option.any_some,
                ← isSome_recording?]
              cases made : recording? pair.2 header with
              | none => simp [made]
              | some recording => simp [made, Zone.covers]

/-- The recording of a zone is the one that its pair names. -/
structure Font.Makes
    (font : Font)
    (pair : PresetRegion × InstrumentRegion)
    (zone : Zone) : Prop where
  made : font.zoneOf? pair = some zone
  start : zone.recording.start = pair.2.start.toNat
  stop : zone.recording.stop = pair.2.stop.toNat
  sampleRate :
    ∃ header,
      font.headers[pair.2.sample]? = some header ∧
        zone.recording.sampleRate = header.sampleRate

theorem Font.makes_of_zoneOf?
    {font : Font}
    {pair : PresetRegion × InstrumentRegion}
    {zone : Zone}
    (made : font.zoneOf? pair = some zone) :
    font.Makes pair zone := by
  have parts := made
  simp only [zoneOf?, zone?, Option.bind_eq_bind, Option.bind_eq_some_iff,
    Option.pure_def, Option.some.injEq] at parts
  obtain ⟨keys, -, velocities, -, header, found, recording, isRecording, rfl⟩ :=
    parts
  simp only [recording?] at isRecording
  split at isRecording
  · cases isRecording
  · rename_i sounding
    simp only [Bool.or_eq_true, decide_eq_true_eq, not_or] at sounding
    cases isRecording
    exact ⟨made, rfl, rfl, header, found, Int.toNat_of_nonneg (by omega)⟩

/-- The zones of a preset are those of its pairs, in order. -/
theorem Font.zones_flattenPreset
    (font : Font)
    (preset : FontPreset) :
    (font.flattenPreset preset).zones =
      (font.regionPairs preset).filterMap font.zoneOf? := by
  have ofRegion (region : PresetRegion) :
      font.zonesOf region =
        ((font.partsOf region).map fun part => (region, part)).filterMap
          font.zoneOf? := by
    rw [List.filterMap_map]
    unfold zonesOf partsOf
    cases font.instruments[region.instrument]? <;> rfl
  rw [flattenPreset, regionPairs, List.filterMap_flatMap]
  exact congrArg (preset.regions.flatMap ·) (funext ofRegion)

/-- The layers of a note are the zones of the pairs that it lies in. -/
theorem Font.layers_flattenPreset
    {key velocity : Nat}
    (isKey : key ≤ 127)
    (isVelocity : velocity ≤ 127)
    (font : Font)
    (preset : FontPreset) :
    List.Forall₂ font.Makes
      ((font.regionPairs preset).filter fun pair =>
        holdsNote FontRange.clamped key velocity pair && font.hasSound pair.2)
      ((font.flattenPreset preset).layers key velocity) := by
  have layers :=
    forall₂_filter_filterMap font.zoneOf? (Zone.covers key velocity)
      (font.regionPairs preset)
  simp only [any_covers_zoneOf? isKey isVelocity] at layers
  rw [Preset.layers, font.zones_flattenPreset]
  exact layers.imp fun _ _ made => Font.makes_of_zoneOf? made

/--
A font that is flattened to a bank has its presets there, in order.  The zones
that a note sounds are those of the pairs of regions in which the note lies once
their ranges are moved into the range of keys, of which the instrument and the
recording are there, and which have samples and a rate; one for each, in order.
For a note that none of these ranges is moved onto, they are those of the pairs
whose ranges hold the note as they are stated.
-/
theorem Font.flatten_keeps_notes
    {font : Font}
    {name : String}
    {bank : Bank}
    (accepted : font.flatten name = .ok bank) :
    bank.presets.length = font.presets.length ∧
      ∀ (place : Nat) preset,
        font.presets[place]? = some preset →
        ∃ flattened,
          bank.presets[place]? = some flattened ∧
            ∀ key ≤ 127,
              ∀ velocity ≤ 127,
                List.Forall₂ font.Makes
                    ((font.regionPairs preset).filter fun pair =>
                      holdsNote FontRange.clamped key velocity pair &&
                        font.hasSound pair.2)
                    (flattened.layers key velocity) ∧
                  ((∀ pair ∈ font.regionPairs preset,
                      PairReadsAsStated key velocity pair) →
                    List.Forall₂ font.Makes
                      ((font.regionPairs preset).filter fun pair =>
                        holdsNote id key velocity pair &&
                          font.hasSound pair.2)
                      (flattened.layers key velocity)) := by
  obtain ⟨-, -, -, presets⟩ := BankDraft.build_eq_ok_iff.mp accepted
  rw [presets]
  refine ⟨by simp [draft], ?_⟩
  intro place preset present
  refine ⟨font.flattenPreset preset, by simp [draft, present], ?_⟩
  intro key isKey velocity isVelocity
  have layers := font.layers_flattenPreset isKey isVelocity preset
  refine ⟨layers, fun asStated => ?_⟩
  have sameFilter :
      ((font.regionPairs preset).filter fun pair =>
          holdsNote FontRange.clamped key velocity pair &&
            font.hasSound pair.2) =
        (font.regionPairs preset).filter fun pair =>
          holdsNote id key velocity pair && font.hasSound pair.2 :=
    List.filter_congr fun pair member => by
      rw [(asStated pair member).holdsNote_clamped isKey isVelocity]
  rw [← sameFilter]
  exact layers

end

/-! ## A range above all keys -/

namespace Font

/--
The values of a mathematical library where nothing is attenuated: all powers are
the power of zero.
-/
abbrev levelFunctions : Transcendental where
  sine := fun _ => 0
  cosine := fun _ => 1
  power := fun _ _ => 1
  exponential := fun _ => 1

/-- A part that plays a recording of four samples on middle C. -/
def bellPart : InstrumentRegion where
  keys := ⟨60, 60⟩
  velocities := ⟨0, 127⟩
  sample := 0
  start := 0
  stop := 4
  loopStart := 0
  loopStop := 4
  loopMode := .noLoop
  rootKey := 60
  coarseTuning := 0
  fineTuning := 0
  keyScaling := 100
  attenuation := 0
  pan := 0
  envelope := ⟨0, 0, 0, 0, 0, 0⟩

/-- A region that plays the only instrument as it is. -/
def bellRegion : PresetRegion where
  keys := ⟨0, 127⟩
  velocities := ⟨0, 127⟩
  instrument := 0
  coarseTuning := 0
  fineTuning := 0
  keyScaling := 0
  attenuation := 0
  pan := 0
  envelope := ⟨1, 1, 1, 1, 0, 1⟩

/-- A font with a bell on middle C, and one on keys that there are not. -/
def bellFont : Font where
  pool := #[0, 8000, -8000, 0]
  headers := [⟨0, 4, 0, 4, 22050, 60, 0⟩]
  instruments := [[bellPart, { bellPart with keys := ⟨200, 255⟩ }]]
  presets := [⟨"bell", 0, 0, [bellRegion]⟩]

/-- The bank of that font. -/
def bellBank : Bank :=
  let _ : Transcendental := levelFunctions
  {
    name := "bells"
    samples := bellFont.pool
    presets := (bellFont.draft "bells").presets
    faultFree := by decide
  }

theorem flatten_bellFont :
    let _ : Transcendental := levelFunctions
    bellFont.flatten "bells" = .ok bellBank :=
  let _ : Transcendental := levelFunctions
  BankDraft.build_eq_ok_iff.mpr ⟨by decide, rfl, rfl, rfl⟩

/-- Middle C sounds one of the bells, as its ranges say. -/
theorem bell_sounds_on_its_key :
    let _ : Transcendental := levelFunctions
    bellFont.flatten "bells" = .ok bellBank ∧
      ∃ preset flattened,
        bellFont.presets[0]? = some preset ∧
          bellBank.presets[0]? = some flattened ∧
          (∀ pair ∈ bellFont.regionPairs preset,
            PairReadsAsStated 60 100 pair) ∧
          (flattened.layers 60 100).length = 1 ∧
          List.Forall₂ bellFont.Makes
            ((bellFont.regionPairs preset).filter fun pair =>
              holdsNote id 60 100 pair && bellFont.hasSound pair.2)
            (flattened.layers 60 100) := by
  intro _
  have asStated :
      ∀ pair ∈ bellFont.regionPairs ⟨"bell", 0, 0, [bellRegion]⟩,
        PairReadsAsStated 60 100 pair := by
    intro pair _
    exact ⟨⟨.inr (by decide), .inr (by decide)⟩,
      ⟨.inr (by decide), .inr (by decide)⟩,
      ⟨.inr (by decide), .inr (by decide)⟩,
      ⟨.inr (by decide), .inr (by decide)⟩⟩
  obtain ⟨flattened, present, keepsNotes⟩ :=
    (flatten_keeps_notes flatten_bellFont).2 0 _ rfl
  have matched :=
    (keepsNotes 60 (by decide) 100 (by decide)).2 asStated
  exact ⟨flatten_bellFont, _, flattened, rfl, present, asStated,
    matched.length_eq.symm, matched⟩

/-- The highest key sounds a bell whose range holds no key at all. -/
theorem not_flatten_keeps_notes_as_stated :
    ¬ ∀ [Transcendental] (font : Font) (name : String) (bank : Bank),
      font.flatten name = .ok bank →
      ∀ (place : Nat) preset flattened,
        font.presets[place]? = some preset →
        bank.presets[place]? = some flattened →
        ∀ key ≤ 127,
          ∀ velocity ≤ 127,
            List.Forall₂ font.Makes
              ((font.regionPairs preset).filter fun pair =>
                holdsNote id key velocity pair && font.hasSound pair.2)
              (flattened.layers key velocity) := by
  intro keepsNotes
  let _ : Transcendental := levelFunctions
  have matched :=
    keepsNotes bellFont "bells" bellBank flatten_bellFont 0 _ _ rfl rfl 127
      (by decide) 100 (by decide)
  exact absurd matched.length_eq (by decide)

end Font

end Polyphony.SoundFont
