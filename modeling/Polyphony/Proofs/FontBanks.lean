import Polyphony.Engine.Voice
import Polyphony.Proofs.FontNotes
import Polyphony.SoundFont.Loading

/-!
# The banks of fonts

Whatever numbers a font states, the zones that it is flattened to can be played:
each has keys, velocities, samples and a rate.  What remains to be wrong is the
end of a recording, which may lie beyond the pool, and this is all that a font is
refused for.  A program that stops at sums of more than 32 bits stops at the tunings
of a zone, and makes the same of a font where it does not.
-/

namespace Polyphony.Instrument

open Engine (BankReference Note Voice)
open Number (Transcendental)

/-- A zone that notes can sound, and that plays something for a while then. -/
structure Zone.IsPlayable (zone : Zone) : Prop where
  keys : zone.keys.low ≤ zone.keys.high ∧ zone.keys.high ≤ 127
  velocities : zone.velocities.low ≤ zone.velocities.high ∧
    zone.velocities.high ≤ 127
  rootKey : zone.rootKey ≤ 127
  samples : zone.recording.start < zone.recording.stop
  rate : 1 ≤ zone.recording.sampleRate

/-- A playable zone of a bank: its recording lies in the pool. -/
structure Zone.WellFormed
    (poolSize : Nat)
    (zone : Zone) : Prop extends zone.IsPlayable where
  within : zone.recording.stop ≤ poolSize

/-- The place of its recording is all that can be wrong with a playable zone. -/
theorem Zone.IsPlayable.usableIn_iff
    {zone : Zone}
    (playable : zone.IsPlayable)
    (poolSize : Nat) :
    zone.recording.UsableIn poolSize ↔ zone.recording.stop ≤ poolSize :=
  ⟨Recording.UsableIn.within, fun within =>
    ⟨playable.samples.le, within, Nat.one_le_iff_ne_zero.mp playable.rate⟩⟩

/-- A voice that starts on a playable zone has something to read. -/
theorem Zone.IsPlayable.unfinished_start
    [Transcendental]
    {zone : Zone}
    (playable : zone.IsPlayable)
    (note : Note)
    (source : BankReference)
    (voice : Voice) :
    (voice.start note source zone).cursor.finished = false :=
  decide_eq_false (not_le.mpr playable.samples)

end Polyphony.Instrument

namespace Polyphony.SoundFont

open Engine (BankReference Note Voice)
open Instrument (Bank BankDraft BankFault Preset Recording Span Zone)
open Number (Transcendental)

/-- A number moved between two bounds lies between them, and is a natural one. -/
theorem toNat_clampInt
    (high : Nat)
    (value : Int) :
    ((clampInt 0 high value).toNat : Int) = clampInt 0 high value ∧
      (clampInt 0 high value).toNat ≤ high := by
  unfold clampInt
  omega

/-- What two ranges have in common are keys. -/
theorem intersect?_eq_some
    {first second : FontRange}
    {span : Span}
    (common : intersect? first second = some span) :
    span.low ≤ span.high ∧ span.high ≤ 127 := by
  unfold intersect? at common
  dsimp only at common
  split at common
  · rename_i ordered
    cases common
    exact ⟨Int.toNat_le_toNat ordered, (toNat_clampInt 127 _).2⟩
  · cases common

theorem recording?_eq_some
    {part : InstrumentRegion}
    {header : SampleHeader}
    {recording : Recording}
    (made : recording? part header = some recording) :
    recording.start < recording.stop ∧ 1 ≤ recording.sampleRate := by
  unfold recording? at made
  dsimp only at made
  split at made
  · cases made
  · rename_i sounding
    simp only [Bool.or_eq_true, decide_eq_true_eq, not_or] at sounding
    cases made
    exact ⟨not_le.mp sounding.1, Nat.one_le_iff_ne_zero.mpr sounding.2⟩

/-- A preset of a bank has the name and, moved to a valid one, the address of a
preset of a font. -/
structure FontPreset.FlattensTo
    (stated : FontPreset)
    (preset : Preset) : Prop where
  name : preset.name = stated.name
  bankNumber : (preset.bankNumber : Int) = clampInt 0 65535 stated.bankNumber
  program : (preset.program : Int) = clampInt 0 127 stated.program
  isProgram : preset.program ≤ 127

/-- One by one, things are made of all sources, unless one of them is stopped at. -/
theorem mapM_eq_ite
    {make : Source → Option Product}
    {stops : Source → Bool}
    {made : Source → Product}
    (each : ∀ source, make source = if stops source then none else some (made source))
    (sources : List Source) :
    sources.mapM make =
      if sources.any stops then none else some (sources.map made) := by
  induction sources with
  | nil => rfl
  | cons source rest inductionHypothesis =>
      rw [List.mapM_cons, each, inductionHypothesis, List.any_cons]
      cases stops source <;> cases rest.any stops <;> rfl

namespace Font

variable [Transcendental]

/-- Every zone that a pair of regions gives can be played. -/
theorem isPlayable_of_zoneOf?
    {font : Font}
    {pair : PresetRegion × InstrumentRegion}
    {zone : Zone}
    (made : font.zoneOf? pair = some zone) :
    zone.IsPlayable := by
  simp only [zoneOf?, zone?, Option.bind_eq_bind, Option.bind_eq_some_iff,
    Option.pure_def, Option.some.injEq] at made
  obtain ⟨keys, haveKeys, velocities, haveVelocities, header, -, recording,
    isRecording, rfl⟩ := made
  obtain ⟨samples, rate⟩ := recording?_eq_some isRecording
  exact ⟨intersect?_eq_some haveKeys, intersect?_eq_some haveVelocities,
    (toNat_clampInt 127 _).2, samples, rate⟩

theorem mem_zones_flattenPreset
    {font : Font}
    {preset : FontPreset}
    {zone : Zone} :
    zone ∈ (font.flattenPreset preset).zones ↔
      ∃ pair ∈ font.regionPairs preset, font.zoneOf? pair = some zone := by
  rw [zones_flattenPreset, List.mem_filterMap]

/-- A font is flattened exactly if no zone of it ends beyond the pool. -/
theorem exists_flatten_iff
    {font : Font}
    {name : String} :
    (∃ bank, font.flatten name = .ok bank) ↔
      ∀ preset ∈ font.presets,
        ∀ zone ∈ (font.flattenPreset preset).zones,
          zone.recording.stop ≤ font.pool.size := by
  have playable (preset : FontPreset) (zone : Zone)
      (member : zone ∈ (font.flattenPreset preset).zones) :
      zone.IsPlayable := by
    obtain ⟨pair, -, made⟩ := mem_zones_flattenPreset.mp member
    exact isPlayable_of_zoneOf? made
  refine BankDraft.exists_build_iff.trans (List.forall_mem_map.trans ?_)
  exact forall₂_congr fun preset _ =>
    forall₂_congr fun zone member =>
      (playable preset zone member).usableIn_iff font.pool.size

/-- A font is refused exactly if a zone of it ends beyond the pool. -/
theorem exists_flatten_error_iff
    {font : Font}
    {name : String} :
    (∃ fault, font.flatten name = .error fault) ↔
      ∃ preset ∈ font.presets,
        ∃ pair ∈ font.regionPairs preset,
          (font.zoneOf? pair).isSome = true ∧
            font.pool.size < pair.2.stop := by
  have refused :
      (∃ fault, font.flatten name = .error fault) ↔
        ¬ ∃ bank, font.flatten name = .ok bank := by
    cases font.flatten name <;> simp
  have beyond (pair : PresetRegion × InstrumentRegion) :
      (font.zoneOf? pair).isSome = true ∧ font.pool.size < pair.2.stop ↔
        ∃ zone, font.zoneOf? pair = some zone ∧
          ¬ zone.recording.stop ≤ font.pool.size := by
    rw [Option.isSome_iff_exists, ← exists_and_right]
    refine exists_congr fun zone => and_congr_right fun made => ?_
    rw [(makes_of_zoneOf? made).stop]
    omega
  rw [refused, exists_flatten_iff]
  simp only [beyond, not_forall, mem_zones_flattenPreset]
  constructor
  · rintro ⟨preset, member, zone, ⟨pair, isPair, made⟩, ends⟩
    exact ⟨preset, member, pair, isPair, zone, made, ends⟩
  · rintro ⟨preset, member, pair, isPair, zone, made, ends⟩
    exact ⟨preset, member, zone, ⟨pair, isPair, made⟩, ends⟩

/-- A font that is flattened has its samples and its presets in the bank. -/
theorem flattensTo_of_flatten
    {font : Font}
    {name : String}
    {bank : Bank}
    (accepted : font.flatten name = .ok bank) :
    bank.samples = font.pool ∧
      List.Forall₂ FontPreset.FlattensTo font.presets bank.presets := by
  obtain ⟨-, -, samples, presets⟩ := BankDraft.build_eq_ok_iff.mp accepted
  refine ⟨samples, ?_⟩
  rw [presets]
  refine List.forall₂_map_right_iff.mpr (List.forall₂_same.mpr ?_)
  intro stated _
  exact ⟨rfl, (toNat_clampInt 65535 _).1, (toNat_clampInt 127 _).1,
    (toNat_clampInt 127 _).2⟩

/-- All zones of the bank can be played, from samples that are there. -/
theorem wellFormed_of_flatten
    {font : Font}
    {name : String}
    {bank : Bank}
    (accepted : font.flatten name = .ok bank) :
    ∀ preset ∈ bank.presets,
      ∀ zone ∈ preset.zones, zone.WellFormed bank.samples.size := by
  obtain ⟨-, -, samples, presets⟩ := BankDraft.build_eq_ok_iff.mp accepted
  rw [presets, samples]
  refine List.forall_mem_map.mpr fun stated member zone isZone => ?_
  obtain ⟨pair, -, made⟩ := mem_zones_flattenPreset.mp isZone
  exact ⟨isPlayable_of_zoneOf? made,
    exists_flatten_iff.mp ⟨bank, accepted⟩ stated member zone isZone⟩

/-- The only report of a font is of a recording that ends beyond the pool. -/
theorem flatten_ne_zeroSampleRate
    {font : Font}
    {name preset : String}
    {position : Nat} :
    font.flatten name ≠ .error (.zeroSampleRate preset position) := by
  intro refused
  obtain ⟨before, flattened, after, earlier, zone, later, presets, zones, -, -,
    reported⟩ := BankDraft.build_eq_error_iff_reported.mp refused
  have member : flattened ∈ (font.draft name).presets := by
    rw [presets]
    exact List.mem_append_right before List.mem_cons_self
  obtain ⟨stated, -, rfl⟩ := List.mem_map.mp member
  have isZone : zone ∈ (font.flattenPreset stated).zones := by
    rw [zones]
    exact List.mem_append_right earlier List.mem_cons_self
  obtain ⟨pair, -, made⟩ := mem_zones_flattenPreset.mp isZone
  cases reported with
  | zeroRate _ _ unrated =>
      have rate := (isPlayable_of_zoneOf? made).rate
      omega

/-! ## Programs that may stop -/

/-- Whether a program stops at a pair of regions. -/
def stopsAt
    (overflow : Overflow)
    (font : Font)
    (pair : PresetRegion × InstrumentRegion) :
    Bool :=
  (font.zoneOf? pair).isSome &&
    (overflow = .traps && tuningOverflows pair.1 pair.2)

theorem zoneOn?_eq
    (overflow : Overflow)
    (font : Font)
    (region : PresetRegion)
    (part : InstrumentRegion) :
    zoneOn? overflow font.headers region part =
      if font.stopsAt overflow (region, part) then none
      else some (font.zoneOf? (region, part)) := by
  rw [zoneOn?, stopsAt, zoneOf?]
  cases zone? font.headers region part <;> rfl

theorem zonesOn?_eq
    (overflow : Overflow)
    (font : Font)
    (region : PresetRegion) :
    font.zonesOn? overflow region =
      if (font.partsOf region).any fun part =>
          font.stopsAt overflow (region, part) then none
      else some (font.zonesOf region) := by
  have parts :
      font.instruments[region.instrument]?.getD [] = font.partsOf region := by
    unfold partsOf
    cases font.instruments[region.instrument]? <;> rfl
  rw [zonesOn?, zonesOf, parts, mapM_eq_ite (font.zoneOn?_eq overflow region)]
  split
  · rfl
  · exact congrArg some List.filterMap_map

theorem flattenPresetOn?_eq
    (overflow : Overflow)
    (font : Font)
    (preset : FontPreset) :
    font.flattenPresetOn? overflow preset =
      if (font.regionPairs preset).any (font.stopsAt overflow) then none
      else some (font.flattenPreset preset) := by
  have samePairs :
      (font.regionPairs preset).any (font.stopsAt overflow) =
        preset.regions.any fun region =>
          (font.partsOf region).any fun part =>
            font.stopsAt overflow (region, part) := by
    simp only [regionPairs, List.any_flatMap, List.any_map]
    rfl
  rw [flattenPresetOn?, mapM_eq_ite (font.zonesOn?_eq overflow), samePairs]
  split
  · rfl
  · rw [flattenPreset, List.flatMap_def]
    rfl

/-- A program that does not stop makes of a font what one does that wraps sums. -/
theorem flattenOn?_eq
    (overflow : Overflow)
    (name : String)
    (font : Font) :
    font.flattenOn? overflow name =
      if font.presets.any fun preset =>
          (font.regionPairs preset).any (font.stopsAt overflow) then none
      else some (font.flatten name) := by
  rw [flattenOn?, mapM_eq_ite (font.flattenPresetOn?_eq overflow)]
  split <;> rfl

/-- A program stops at a font exactly if it stops at a zone of the font. -/
theorem flattenOn?_eq_none_iff
    {overflow : Overflow}
    {name : String}
    {font : Font} :
    font.flattenOn? overflow name = none ↔
      overflow = .traps ∧
        ∃ preset ∈ font.presets,
          ∃ pair ∈ font.regionPairs preset,
            (font.zoneOf? pair).isSome = true ∧
              tuningOverflows pair.1 pair.2 = true := by
  rw [flattenOn?_eq]
  cases overflow <;> simp [stopsAt]

theorem flatten_of_flattenOn?
    {overflow : Overflow}
    {name : String}
    {font : Font}
    {outcome : Except BankFault Bank}
    (ended : font.flattenOn? overflow name = some outcome) :
    font.flatten name = outcome := by
  rw [flattenOn?_eq] at ended
  split at ended
  · cases ended
  · exact Option.some.inj ended

end Font

/-- A bank has the samples and the presets of a font, and all of it can be played. -/
structure Font.MakesBank
    [Transcendental]
    (font : Font)
    (bank : Bank) : Prop where
  samples : bank.samples = font.pool
  presets : List.Forall₂ FontPreset.FlattensTo font.presets bank.presets
  zones :
    ∀ preset ∈ bank.presets,
      ∀ zone ∈ preset.zones, zone.WellFormed bank.samples.size
  unfinished :
    ∀ preset ∈ bank.presets,
      ∀ zone ∈ preset.zones,
        ∀ (note : Note) (source : BankReference) (voice : Voice),
          (voice.start note source zone).cursor.finished = false

/-- What a program makes of a font, whether it stops at sums or wraps them. -/
structure Font.FlattensOn
    [Transcendental]
    (overflow : Overflow)
    (name : String)
    (font : Font) : Prop where
  makes :
    ∀ bank,
      font.flattenOn? overflow name = some (.ok bank) →
      font.MakesBank bank
  stops :
    font.flattenOn? overflow name = none ↔
      overflow = .traps ∧
        ∃ preset ∈ font.presets,
          ∃ pair ∈ font.regionPairs preset,
            (font.zoneOf? pair).isSome = true ∧
              tuningOverflows pair.1 pair.2 = true
  refuses :
    font.flattenOn? overflow name ≠ none →
    ((∃ fault, font.flattenOn? overflow name = some (.error fault)) ↔
      ∃ preset ∈ font.presets,
        ∃ pair ∈ font.regionPairs preset,
          (font.zoneOf? pair).isSome = true ∧ font.pool.size < pair.2.stop)
  rated :
    ∀ preset position,
      font.flattenOn? overflow name ≠
        some (.error (.zeroSampleRate preset position))

section

variable [Transcendental]

theorem Font.makesBank_of_flatten
    {font : Font}
    {name : String}
    {bank : Bank}
    (accepted : font.flatten name = .ok bank) :
    font.MakesBank bank where
  samples := (flattensTo_of_flatten accepted).1
  presets := (flattensTo_of_flatten accepted).2
  zones := wellFormed_of_flatten accepted
  unfinished := fun preset member zone isZone =>
    (wellFormed_of_flatten accepted preset member zone isZone).unfinished_start

theorem Font.flattensOn
    (overflow : Overflow)
    (name : String)
    (font : Font) :
    font.FlattensOn overflow name where
  makes := fun _ accepted =>
    makesBank_of_flatten (flatten_of_flattenOn? accepted)
  stops := flattenOn?_eq_none_iff
  refuses := by
    intro goesOn
    obtain ⟨outcome, ended⟩ := Option.ne_none_iff_exists'.mp goesOn
    rw [ended, ← flatten_of_flattenOn? ended]
    simp only [Option.some.injEq]
    exact exists_flatten_error_iff
  rated := fun _ _ refused =>
    flatten_ne_zeroSampleRate (flatten_of_flattenOn? refused)

/-- A bank that a loader gives is that of a font that its reader has read. -/
theorem makesBank_of_loaderReading
    {read : FontFile → Option Font}
    {files : String → Option FileContents}
    {path : String}
    {bank : Bank}
    (loaded : (loaderReading read files path).bank = .ok bank) :
    ∃ file font,
      files path = some (.font file) ∧
        read file = some font ∧
        font.MakesBank bank := by
  unfold loaderReading at loaded
  split at loaded
  · cases loaded
  · cases loaded
  · rename_i file found
    split at loaded
    · cases loaded
    · rename_i font isRead
      cases flattened : font.flatten (String.ofList (fileStem (fileName path))) with
      | error fault => simp [flattened, Except.mapError] at loaded
      | ok made =>
          simp only [flattened, Except.mapError, Except.ok.injEq] at loaded
          subst made
          exact ⟨file, font, found, isRead, Font.makesBank_of_flatten flattened⟩

/--
Whoever reads the fonts, each bank that the loader gives has the presets of a font,
in order, and all of their zones can be played: they have keys and velocities, a root
key, samples in the pool and a rate, so that every voice that starts on one has
something to read.  So has each bank that a program makes of a font, whatever it does
at sums of more than 32 bits.  It stops exactly if it is built to stop at such sums,
and a pair of regions that gives a zone has one.  Otherwise it refuses the font exactly
if such a pair ends beyond the pool, and never for a rate.
-/
theorem fonts_make_wellFormed_banks :
    (∀ read files path bank,
        (loaderReading read files path).bank = .ok bank →
        ∃ file font,
          files path = some (.font file) ∧
            read file = some font ∧
            font.MakesBank bank) ∧
      ∀ overflow name (font : Font), font.FlattensOn overflow name :=
  ⟨fun _ _ _ _ => makesBank_of_loaderReading, Font.flattensOn⟩

end

/-! ## Three fonts -/

namespace Font

/-- A font with a bell that ends beyond the pool. -/
def longBellFont : Font :=
  { bellFont with instruments := [[{ bellPart with stop := 5 }]] }

/-- A font with a bell that is tuned higher than 32 bits can say. -/
def highBellFont : Font :=
  { bellFont with
    instruments := [[{ bellPart with coarseTuning := 2147483647 }]]
    presets := [⟨"bell", 0, 0, [{ bellRegion with coarseTuning := 1 }]⟩] }

end Font

/-- A bell is played, one that is too long is refused, one that is too high stops. -/
theorem bells_are_played_refused_or_stopped_at :
    let _ : Transcendental := Font.levelFunctions
    let bells := Font.bellFont.flattenOn? .traps "bells"
    let longBell := Font.longBellFont.flattenOn? .traps "bells"
    let highBell (overflow : Overflow) :=
      Font.highBellFont.flattenOn? overflow "bells"
    bells = some (.ok Font.bellBank) ∧
      Font.bellBank.presets.map (·.zones.length) = [2] ∧
      Font.bellFont.MakesBank Font.bellBank ∧
      (∃ fault, longBell = some (.error fault)) ∧
      highBell .traps = none ∧
      highBell .wraps ≠ none := by
  intro _ bells longBell highBell
  have flattens (font : Font) (overflow : Overflow) :
      font.FlattensOn overflow "bells" :=
    fonts_make_wellFormed_banks.2 overflow "bells" font
  have bellsRing : bells = some (.ok Font.bellBank) := by
    change Font.bellFont.flattenOn? .traps "bells" = _
    rw [Font.flattenOn?_eq, Font.flatten_bellFont]
    exact if_neg (by decide +kernel)
  have longGoesOn : longBell ≠ none := by
    refine (flattens Font.longBellFont .traps).stops.not.mpr ?_
    decide +kernel
  refine ⟨bellsRing, by decide +kernel,
    (flattens Font.bellFont .traps).makes _ bellsRing,
    ((flattens Font.longBellFont .traps).refuses longGoesOn).mpr ?_,
    (flattens Font.highBellFont .traps).stops.mpr ?_,
    (flattens Font.highBellFont .wraps).stops.not.mpr ?_⟩
  · decide +kernel
  · decide +kernel
  · decide +kernel

end Polyphony.SoundFont
