import Polyphony.Engine.Notes
import Polyphony.Proofs.VoiceLife

namespace Polyphony.Engine

/-!
# The layers of a note

Every layer of a note needs a voice.  If none is free, one is stolen, but never
from the note itself.  So a slot changes once at most while a note starts, and
the report of the note names whatever was cut.
-/

open Instrument (Zone)
open Number (Transcendental)

namespace VoicePool

/-! ## Victims -/

theorem firstStolen_eq_some
    {best? : Option (Voice × Nat)}
    {candidate chosen : Voice × Nat}
    (choice : firstStolen best? candidate = some chosen) :
    chosen = candidate ∨ best? = some chosen := by
  cases best? with
  | none =>
      exact .inl (Option.some.inj choice).symm
  | some best =>
      simp only [firstStolen] at choice
      split at choice
      · exact .inl (Option.some.inj choice).symm
      · exact .inr choice

theorem mem_of_foldl_firstStolen
    {candidates : List (Voice × Nat)}
    {best? : Option (Voice × Nat)}
    {chosen : Voice × Nat}
    (folded : candidates.foldl firstStolen best? = some chosen) :
    best? = some chosen ∨ chosen ∈ candidates := by
  induction candidates generalizing best? with
  | nil =>
      exact .inl folded
  | cons candidate rest inductionHypothesis =>
      rcases inductionHypothesis folded with early | late
      · rcases firstStolen_eq_some early with same | before
        · exact .inr (by simp [same])
        · exact .inl before
      · exact .inr (List.mem_cons_of_mem candidate late)

/-- A victim sits in its slot, and sounds another note. -/
theorem victim?_eq_some
    {serial slot : Nat}
    {pool : VoicePool}
    {victim : Voice}
    (found : pool.victim? serial = some (victim, slot)) :
    pool.voices[slot]? = some victim ∧ victim.serial ≠ serial := by
  rcases mem_of_foldl_firstStolen found with none | member
  · cases none
  · obtain ⟨listed, other⟩ := List.mem_filter.mp member
    exact ⟨List.mk_mem_zipIdx_iff_getElem?.mp listed,
      of_decide_eq_true other⟩

/-! ## Slots -/

/-- How a stolen voice is reported. -/
def reported
    (slot : Nat)
    (victim : Voice) :
    StolenVoice :=
  ⟨slot, victim.channel, victim.key, victim.state⟩

/-- What becomes of a slot while a note starts. -/
inductive Struck
    (note : Note)
    (source : BankReference)
    (stolen : List StolenVoice)
    (slot : Nat)
    (before : Voice) :
    Voice → Prop where
  | kept :
      Struck note source stolen slot before before
  | started {after : Voice} :
      before.isFree ∨
        before.serial ≠ note.serial ∧ reported slot before ∈ stolen →
      after.state = .attacking →
      after.serial = note.serial →
      after.source? = some source →
      after.WellFormed →
      Struck note source stolen slot before after

/-- A slot that a note has struck is not struck again by the same note. -/
theorem Struck.trans
    {note : Note}
    {source : BankReference}
    {first second : List StolenVoice}
    {slot : Nat}
    {before middle after : Voice}
    (earlier : Struck note source first slot before middle)
    (later : Struck note source second slot middle after) :
    Struck note source (first ++ second) slot before after := by
  cases earlier with
  | kept =>
      cases later with
      | kept =>
          exact .kept
      | started cause attacking own holding wellFormed =>
          have wider := cause.imp_right fun ⟨other, member⟩ =>
            And.intro other (List.mem_append_right first member)
          exact .started wider attacking own holding wellFormed
  | started cause attacking own holding wellFormed =>
      cases later with
      | kept =>
          have wider := cause.imp_right fun ⟨other, member⟩ =>
            And.intro other (List.mem_append_left second member)
          exact .started wider attacking own holding wellFormed
      | started again _ _ _ _ =>
          rcases again with free | ⟨other, -⟩
          · simp [Voice.isFree, attacking] at free
          · exact absurd own other

theorem modify_eq_set
    {slot : Nat}
    {voices : List Voice}
    {old : Voice}
    (present : voices[slot]? = some old)
    (change : Voice → Voice) :
    voices.modify slot change = voices.set slot (change old) := by
  apply List.ext_getElem?
  intro other
  by_cases same : slot = other
  · subst other
    obtain ⟨inside, isOld⟩ := List.getElem?_eq_some_iff.mp present
    simp [inside, isOld]
  · simp [same]

/-- The slot of an allocation is free, or one that another note has lost. -/
theorem allocate?_eq_some
    {serial : Nat}
    {pool ready : VoicePool}
    {allocation : Allocation}
    (allocated : pool.allocate? serial = some (allocation, ready)) :
    (∃ voice,
        pool.voices[allocation.slot]? = some voice ∧
          voice.isFree ∧
          allocation.stolen? = none ∧
          ready = pool) ∨
      ∃ victim,
        (∀ voice ∈ pool.voices, ¬ voice.isFree) ∧
          pool.voices[allocation.slot]? = some victim ∧
          victim.serial ≠ serial ∧
          allocation.stolen? = some (reported allocation.slot victim) ∧
          ready =
            (pool.putVoice allocation.slot victim.free.2).retire
              victim.source? := by
  unfold allocate? at allocated
  split at allocated
  · rename_i slot found
    cases allocated
    obtain ⟨inside, free, -⟩ := List.findIdx?_eq_some_iff_getElem.mp found
    exact .inl ⟨_, List.getElem?_eq_getElem inside, free, rfl, rfl⟩
  · rename_i noneFree
    simp only [Option.map_eq_some_iff, Prod.mk.injEq] at allocated
    obtain ⟨⟨victim, slot⟩, chosen, isAllocation, isReady⟩ := allocated
    obtain ⟨present, other⟩ := victim?_eq_some chosen
    subst allocation
    refine .inr ⟨victim, ?_, present, other, rfl, isReady.symm⟩
    intro voice member
    simpa using List.findIdx?_eq_none_iff.mp noneFree voice member

/-- An allocation changes at most the slot that it steals, which is free then. -/
theorem allocate?_slot
    {serial : Nat}
    {pool ready : VoicePool}
    {allocation : Allocation}
    (allocated : pool.allocate? serial = some (allocation, ready))
    {slot : Nat}
    {voice : Voice}
    (present : pool.voices[slot]? = some voice) :
    ∃ last,
      ready.voices[slot]? = some last ∧
        (last = voice ∨
          allocation.stolen? = some (reported slot voice) ∧ last.isFree) := by
  rcases allocate?_eq_some allocated with
    ⟨-, -, -, -, isReady⟩ | ⟨victim, -, there, -, stolen, isReady⟩
  · rw [isReady]
    exact ⟨voice, present, .inl rfl⟩
  · by_cases same : allocation.slot = slot
    · rw [same] at there stolen isReady
      have isVictim : voice = victim :=
        Option.some.inj (present.symm.trans there)
      have inside := (List.getElem?_eq_some_iff.mp present).1
      rw [isReady, isVictim]
      refine ⟨victim.free.2, ?_, .inr ⟨stolen, rfl⟩⟩
      simp [putVoice, retire, inside]
    · rw [isReady]
      refine ⟨voice, ?_, .inl rfl⟩
      simp only [putVoice, retire]
      rw [List.getElem?_set_ne same, present]

/-! ## One layer -/

/--
The two ways in which a layer starts: in a slot that is free, or, when no slot
is, in one that is taken from another note.
-/
inductive LayerStart
    [Transcendental]
    (note : Note)
    (source : BankReference)
    (zone : Zone)
    (pool : VoicePool) :
    Option StolenVoice → VoicePool → Prop where
  | found {slot : Nat} {old : Voice} :
      pool.voices[slot]? = some old →
      old.isFree →
      LayerStart note source zone pool none
        { pool with
          voices := pool.voices.set slot (old.start note source zone) }
  | stolen {slot : Nat} {victim : Voice} :
      (∀ voice ∈ pool.voices, ¬ voice.isFree) →
      pool.voices[slot]? = some victim →
      victim.serial ≠ note.serial →
      LayerStart note source zone pool (some (reported slot victim))
        { voices :=
            pool.voices.set slot (victim.free.2.start note source zone)
          retired := pool.retired.retire victim.source? }

variable [Transcendental]

/-- The start of a zone in the slot that is allocated for it. -/
theorem layerStart
    {note : Note}
    {pool ready : VoicePool}
    {allocation : Allocation}
    (allocated : pool.allocate? note.serial = some (allocation, ready))
    (source : BankReference)
    (zone : Zone) :
    pool.LayerStart note source zone allocation.stolen?
      (ready.start allocation.slot note source zone) := by
  rcases allocate?_eq_some allocated with
    ⟨voice, present, free, notStolen, isReady⟩ |
      ⟨victim, noneFree, present, other, stolen, isReady⟩
  · subst ready
    rw [start, modify_eq_set present, notStolen]
    exact .found present free
  · have inside := (List.getElem?_eq_some_iff.mp present).1
    have freed :
        (pool.voices.set allocation.slot victim.free.2)[allocation.slot]? =
          some victim.free.2 := by
      simp [inside]
    subst ready
    simp only [start, retire, putVoice]
    rw [modify_eq_set freed, List.set_set, stolen]
    exact .stolen noneFree present other

/-- One layer strikes one slot. -/
theorem LayerStart.struck
    {note : Note}
    {source : BankReference}
    {zone : Zone}
    {pool after : VoicePool}
    {stolen? : Option StolenVoice}
    (layer : pool.LayerStart note source zone stolen? after)
    {slot : Nat}
    {before : Voice}
    (present : pool.voices[slot]? = some before) :
    ∃ last,
      after.voices[slot]? = some last ∧
        Struck note source stolen?.toList slot before last := by
  have struckAt
      {place : Nat}
      {old ready : Voice}
      (there : pool.voices[place]? = some old)
      (cause :
        old.isFree ∨
          old.serial ≠ note.serial ∧ reported place old ∈ stolen?.toList) :
      ∃ last,
        (pool.voices.set place (ready.start note source zone))[slot]? =
            some last ∧
          Struck note source stolen?.toList slot before last := by
    by_cases same : place = slot
    · subst place
      have sameVoice : old = before := Option.some.inj (there.symm.trans present)
      subst old
      have inside := (List.getElem?_eq_some_iff.mp present).1
      refine ⟨ready.start note source zone, by simp [inside], ?_⟩
      exact .started cause rfl rfl rfl (Voice.WellFormed.start ..)
    · refine ⟨before, ?_, .kept⟩
      rw [List.getElem?_set_ne same, present]
  cases layer with
  | found there free =>
      exact struckAt there (.inl free)
  | stolen _ there other =>
      exact struckAt there (.inr ⟨other, by simp⟩)

theorem LayerStart.length
    {note : Note}
    {source : BankReference}
    {zone : Zone}
    {pool after : VoicePool}
    {stolen? : Option StolenVoice}
    (layer : pool.LayerStart note source zone stolen? after) :
    after.voices.length = pool.voices.length := by
  cases layer with
  | found there free => simp
  | stolen noneFree there other => simp

/-! ## All layers -/

/-- However many layers start, each slot is struck once at most. -/
theorem startLayers_struck
    (note : Note)
    (source : BankReference)
    (zones : List Zone)
    (pool : VoicePool)
    {slot : Nat}
    {before : Voice}
    (present : pool.voices[slot]? = some before) :
    ∃ after,
      (pool.startLayers note source zones).2.voices[slot]? = some after ∧
        Struck note source (pool.startLayers note source zones).1.stolen
          slot before after := by
  induction zones generalizing pool before with
  | nil =>
      exact ⟨before, present, .kept⟩
  | cons zone rest inductionHypothesis =>
      cases allocated : pool.allocate? note.serial with
      | none =>
          simp only [startLayers, allocated]
          exact ⟨before, present, .kept⟩
      | some result =>
          obtain ⟨allocation, ready⟩ := result
          obtain ⟨middle, struckPresent, earlier⟩ :=
            (layerStart allocated source zone).struck present
          obtain ⟨after, afterPresent, later⟩ :=
            inductionHypothesis _ struckPresent
          simp only [startLayers, allocated]
          exact ⟨after, afterPresent, earlier.trans later⟩

theorem length_startLayers
    (note : Note)
    (source : BankReference)
    (zones : List Zone)
    (pool : VoicePool) :
    (pool.startLayers note source zones).2.voices.length =
      pool.voices.length := by
  induction zones generalizing pool with
  | nil =>
      rfl
  | cons zone rest inductionHypothesis =>
      cases allocated : pool.allocate? note.serial with
      | none =>
          simp only [startLayers, allocated]
      | some result =>
          obtain ⟨allocation, ready⟩ := result
          simp only [startLayers, allocated]
          rw [inductionHypothesis]
          exact (layerStart allocated source zone).length

end VoicePool

end Polyphony.Engine
