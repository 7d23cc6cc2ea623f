import Polyphony.Proofs.Directory

/-!
# Banks are built right

A draft becomes a bank exactly if each of its zones plays samples that the pool
has, at some rate; otherwise the first zone that does not is reported.  The bank
then finds the presets of the draft by address and by program, and answers with
the best of them.
-/

namespace Polyphony.Instrument

/-- A recording that a pool of samples has, with a rate to play it at. -/
structure Recording.UsableIn
    (poolSize : Nat)
    (recording : Recording) : Prop where
  ordered : recording.start ≤ recording.stop
  within : recording.stop ≤ poolSize
  rated : recording.sampleRate ≠ 0

/-- What is reported of a zone: where its recording lies, and only then its rate. -/
inductive ReportedAs
    (poolSize : Nat)
    (preset : String)
    (position : Nat)
    (recording : Recording) :
    BankFault → Prop where
  | outOfRange
      (misplaced :
        ¬ (recording.start ≤ recording.stop ∧ recording.stop ≤ poolSize)) :
      ReportedAs poolSize preset position recording
        (.sampleOutOfRange preset position recording.start recording.stop
          poolSize)
  | zeroRate
      (ordered : recording.start ≤ recording.stop)
      (within : recording.stop ≤ poolSize)
      (unrated : recording.sampleRate = 0) :
      ReportedAs poolSize preset position recording
        (.zeroSampleRate preset position)

/-! ## Faults -/

theorem recordingFault?_eq_some_iff
    {poolSize position : Nat}
    {preset : String}
    {recording : Recording}
    {fault : BankFault} :
    recordingFault? poolSize preset position recording = some fault ↔
      ReportedAs poolSize preset position recording fault := by
  simp only [recordingFault?, Bool.or_eq_true, decide_eq_true_eq]
  split
  · rename_i misplaced
    constructor
    · rintro ⟨⟩
      exact .outOfRange (by omega)
    · rintro (_ | ⟨ordered, within, _⟩)
      · rfl
      · omega
  · split
    · rename_i placed unrated
      constructor
      · rintro ⟨⟩
        exact .zeroRate (by omega) (by omega) unrated
      · rintro (misplaced | _)
        · omega
        · rfl
    · rename_i placed rated
      constructor
      · rintro ⟨⟩
      · rintro (misplaced | ⟨-, -, unrated⟩)
        · omega
        · exact absurd unrated rated

theorem recordingFault?_eq_none_iff
    {poolSize position : Nat}
    {preset : String}
    {recording : Recording} :
    recordingFault? poolSize preset position recording = none ↔
      recording.UsableIn poolSize := by
  simp only [recordingFault?, Bool.or_eq_true, decide_eq_true_eq]
  constructor
  · intro faultless
    split at faultless
    · cases faultless
    · split at faultless
      · cases faultless
      · rename_i placed rated
        exact ⟨by omega, by omega, rated⟩
  · rintro ⟨ordered, within, rated⟩
    rw [if_neg (by omega), if_neg rated]

/-- No zone of a list has a fault exactly if all of them are usable. -/
theorem faultless_iff
    {poolSize : Nat}
    {name : String}
    {zones : List Zone} :
    (∀ numbered ∈ zones.zipIdx,
        recordingFault? poolSize name numbered.2 numbered.1.recording = none) ↔
      ∀ zone ∈ zones, zone.recording.UsableIn poolSize := by
  simp only [Prod.forall, recordingFault?_eq_none_iff]
  constructor
  · intro usable zone member
    obtain ⟨position, present⟩ := List.mem_iff_getElem?.mp member
    exact usable zone position
      (List.mem_zipIdx_iff_getElem?.mpr present)
  · intro usable zone position numbered
    exact usable zone
      (List.mem_of_getElem? (List.mem_zipIdx_iff_getElem?.mp numbered))

theorem presetFault?_eq_none_iff
    {poolSize : Nat}
    {preset : Preset} :
    presetFault? poolSize preset = none ↔
      ∀ zone ∈ preset.zones, zone.recording.UsableIn poolSize :=
  List.findSome?_eq_none_iff.trans faultless_iff

/-- The fault of a preset is that of its first zone that is not usable. -/
theorem presetFault?_eq_some_iff
    {poolSize : Nat}
    {preset : Preset}
    {fault : BankFault} :
    presetFault? poolSize preset = some fault ↔
      ∃ earlier zone later,
        preset.zones = earlier ++ zone :: later ∧
          (∀ other ∈ earlier, other.recording.UsableIn poolSize) ∧
          ReportedAs poolSize preset.name earlier.length zone.recording
            fault := by
  rw [presetFault?, List.findSome?_eq_some_iff]
  constructor
  · rintro ⟨before, ⟨zone, position⟩, after, split, reported, faultless⟩
    obtain ⟨earlier, rest, zones, rfl, numbered⟩ :=
      List.zipIdx_eq_append_iff.mp split
    obtain ⟨first, later, rfl, here, -⟩ :=
      List.zipIdx_eq_cons_iff.mp numbered.symm
    obtain ⟨rfl, rfl⟩ := Prod.mk.inj here
    rw [Nat.zero_add] at reported
    exact ⟨earlier, zone, later, zones, faultless_iff.mp faultless,
      recordingFault?_eq_some_iff.mp reported⟩
  · rintro ⟨earlier, zone, later, zones, usable, reported⟩
    refine ⟨earlier.zipIdx, (zone, earlier.length),
      later.zipIdx (earlier.length + 1), ?_,
      recordingFault?_eq_some_iff.mpr reported,
      faultless_iff.mpr usable⟩
    rw [zones, List.zipIdx_append, List.zipIdx_cons, Nat.zero_add]

namespace BankDraft

/-- A draft is built if there is no fault in it. -/
theorem build_eq_ok_iff
    {draft : BankDraft}
    {bank : Bank} :
    draft.build = .ok bank ↔
      firstFault? draft.samples.size draft.presets = none ∧
        bank.name = draft.name ∧
        bank.samples = draft.samples ∧
        bank.presets = draft.presets := by
  unfold build
  split
  · rename_i fault found
    simp [found]
  · rename_i found
    constructor
    · rintro ⟨⟩
      exact ⟨found, rfl, rfl, rfl⟩
    · rintro ⟨-, name, samples, presets⟩
      cases bank with
      | mk bankName pool listed faultFree directory isListed =>
          subst name samples presets isListed
          rfl

theorem build_eq_error_iff
    {draft : BankDraft}
    {fault : BankFault} :
    draft.build = .error fault ↔
      firstFault? draft.samples.size draft.presets = some fault := by
  unfold build
  split
  · rename_i first found
    simp [found]
  · rename_i found
    simp [found]

/-- A draft becomes a bank exactly if all of its zones are usable. -/
theorem exists_build_iff {draft : BankDraft} :
    (∃ bank, draft.build = .ok bank) ↔
      ∀ preset ∈ draft.presets,
        ∀ zone ∈ preset.zones,
          zone.recording.UsableIn draft.samples.size := by
  constructor
  · rintro ⟨bank, built⟩ preset member
    exact presetFault?_eq_none_iff.mp
      (List.findSome?_eq_none_iff.mp (build_eq_ok_iff.mp built).1 preset member)
  · intro usable
    cases built : draft.build with
    | ok bank => exact ⟨bank, rfl⟩
    | error fault =>
        have faultless :
            firstFault? draft.samples.size draft.presets = none :=
          List.findSome?_eq_none_iff.mpr fun preset member =>
            presetFault?_eq_none_iff.mpr (usable preset member)
        rw [build_eq_error_iff, faultless] at built
        cases built

/-- The fault of a draft is that of its first zone that is not usable. -/
theorem build_eq_error_iff_reported
    {draft : BankDraft}
    {fault : BankFault} :
    draft.build = .error fault ↔
      ∃ before preset after earlier zone later,
        draft.presets = before ++ preset :: after ∧
          preset.zones = earlier ++ zone :: later ∧
          (∀ other ∈ before,
            ∀ zone ∈ other.zones,
              zone.recording.UsableIn draft.samples.size) ∧
          (∀ other ∈ earlier,
            other.recording.UsableIn draft.samples.size) ∧
          ReportedAs draft.samples.size preset.name earlier.length
            zone.recording fault := by
  rw [build_eq_error_iff, firstFault?, List.findSome?_eq_some_iff]
  simp only [presetFault?_eq_some_iff, presetFault?_eq_none_iff]
  constructor
  · rintro ⟨before, preset, after, presets,
      ⟨earlier, zone, later, zones, usable, reported⟩, allUsable⟩
    exact ⟨before, preset, after, earlier, zone, later, presets, zones,
      allUsable, usable, reported⟩
  · rintro ⟨before, preset, after, earlier, zone, later, presets, zones,
      allUsable, usable, reported⟩
    exact ⟨before, preset, after, presets,
      ⟨earlier, zone, later, zones, usable, reported⟩, allUsable⟩

end BankDraft

/-! ## Look-ups -/

/-- The places of the presets that have a property. -/
def placesWhere
    (holds : Preset → Prop)
    (presets : List Preset) :
    Set ℕ :=
  { place | ∃ preset, presets[place]? = some preset ∧ holds preset }

/-- The first preset that has a property is the one at the least of the places. -/
theorem findIdx?_eq_some_iff_isLeast
    {holds : Preset → Bool}
    {presets : List Preset}
    {index : Nat} :
    presets.findIdx? holds = some index ↔
      IsLeast (placesWhere (holds ·) presets) index := by
  rw [List.findIdx?_eq_some_iff_getElem]
  constructor
  · rintro ⟨inside, own, noneEarlier⟩
    refine ⟨⟨_, List.getElem?_eq_getElem inside, own⟩, ?_⟩
    rintro place ⟨preset, present, other⟩
    obtain ⟨placeInside, rfl⟩ := List.getElem?_eq_some_iff.mp present
    exact Nat.not_lt.mp fun earlier => noneEarlier place earlier other
  · rintro ⟨⟨preset, present, own⟩, least⟩
    obtain ⟨inside, rfl⟩ := List.getElem?_eq_some_iff.mp present
    refine ⟨inside, own, fun place earlier other => ?_⟩
    exact Nat.not_le.mpr earlier
      (least ⟨_, List.getElem?_eq_getElem (by omega), other⟩)

/-- The answer of a bank is the first there is of three that it looks up. -/
theorem matchIn?_eq_or
    (bankNumber program : Nat)
    (bank : Bank) :
    matchIn? bankNumber program bank =
      (((bank.presetIndex? bankNumber program).map (·, MatchQuality.exact)).or
        ((bank.programFallback? program).map (·, .sameProgram))).or
        (bank.firstPlayable?.map (·, .anyPreset)) := by
  unfold matchIn?
  cases bank.presetIndex? bankNumber program with
  | some index => rfl
  | none =>
      cases bank.programFallback? program with
      | some index => rfl
      | none => rfl

/--
A draft becomes a bank exactly if all of its zones are usable, and fails with a
report of the first zone that is not, in the order of the presets and of the
zones in each.  The bank has the samples and the presets of the draft.  An
address leads to the first preset that has it, playable or not; a program to the
playable preset that has it in the lowest bank number, the first of several;
and where any preset will do the first playable one is found.  A channel is
answered with the first of these three that there is.
-/
theorem BankDraft.build_lists_usable_presets (draft : BankDraft) :
    let size := draft.samples.size
    ((∃ bank, draft.build = .ok bank) ↔
        ∀ preset ∈ draft.presets,
          ∀ zone ∈ preset.zones, zone.recording.UsableIn size) ∧
      (∀ fault,
        draft.build = .error fault ↔
          ∃ before preset after earlier zone later,
            draft.presets = before ++ preset :: after ∧
              preset.zones = earlier ++ zone :: later ∧
              (∀ other ∈ before,
                ∀ zone ∈ other.zones, zone.recording.UsableIn size) ∧
              (∀ other ∈ earlier, other.recording.UsableIn size) ∧
              ReportedAs size preset.name earlier.length zone.recording
                fault) ∧
      ∀ bank,
        draft.build = .ok bank →
        bank.name = draft.name ∧
          bank.samples = draft.samples ∧
          bank.presets = draft.presets ∧
          (∀ index,
            bank.firstPlayable? = some index ↔
              IsLeast (placesWhere (·.zones ≠ []) draft.presets) index) ∧
          ∀ bankNumber program,
            (∀ index,
              bank.presetIndex? bankNumber program = some index ↔
                IsLeast
                  (placesWhere
                    (fun preset =>
                      preset.bankNumber = bankNumber ∧
                        preset.program = program)
                    draft.presets)
                  index) ∧
              (∀ index,
                bank.programFallback? program = some index ↔
                  ∃ lowest,
                    IsLeast
                      { place : ℕ ×ₗ ℕ |
                        ∃ preset,
                          draft.presets[(ofLex place).2]? = some preset ∧
                            preset.bankNumber = (ofLex place).1 ∧
                            preset.program = program ∧
                            preset.zones ≠ [] }
                      (toLex (lowest, index))) ∧
              matchIn? bankNumber program bank =
                (((bank.presetIndex? bankNumber program).map
                    (·, MatchQuality.exact)).or
                  ((bank.programFallback? program).map (·, .sameProgram))).or
                  (bank.firstPlayable?.map (·, .anyPreset)) ∧
              (matchIn? bankNumber program bank = none ↔
                bank.presetIndex? bankNumber program = none ∧
                  bank.programFallback? program = none ∧
                  bank.firstPlayable? = none) := by
  intro size
  have playable (preset : Preset) :
      preset.isPlayable = true ↔ preset.zones ≠ [] := by
    simp [Preset.isPlayable]
  refine ⟨exists_build_iff, fun fault => build_eq_error_iff_reported, ?_⟩
  intro bank built
  obtain ⟨-, name, samples, presets⟩ := build_eq_ok_iff.mp built
  refine ⟨name, samples, presets, ?_, fun bankNumber program =>
    ⟨?_, ?_, matchIn?_eq_or bankNumber program bank, ?_⟩⟩
  · intro index
    rw [bank.firstPlayable?_eq_findIdx?, findIdx?_eq_some_iff_isLeast,
      presets]
    simp only [playable]
  · intro index
    rw [bank.presetIndex?_eq_findIdx?, findIdx?_eq_some_iff_isLeast,
      presets]
    simp only [Preset.hasAddress, Bool.and_eq_true, decide_eq_true_eq]
  · intro index
    rw [bank.programFallback?_eq_some_iff, presets]
    simp only [playablePlaces, playable]
  · rw [matchIn?_eq_or]
    simp [and_assoc]

end Polyphony.Instrument
