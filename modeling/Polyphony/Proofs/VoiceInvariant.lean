import Polyphony.Proofs.VoiceStates

namespace Polyphony.Engine

/-!
# What every voice keeps

Voices are started, released, cut, sounded and freed, and nothing else is ever
done to them.  A property that each of these keeps holds therefore of every
voice, at every point of every session.
-/

open Instrument (Zone)
open Number (Transcendental)
open Sound (Interpolation)

namespace VoicePool

/-- What a change keeps of one voice, it keeps of all that it is made to. -/
theorem forall_changeWhere
    (holds : Voice → Prop)
    {change : Voice → Voice}
    (keeps : ∀ {voice : Voice}, holds voice → holds (change voice))
    (condition : Voice → Bool)
    {pool : VoicePool}
    (before : ∀ voice ∈ pool.voices, holds voice) :
    ∀ voice ∈ (pool.changeWhere condition change).voices, holds voice := by
  intro voice member
  obtain ⟨old, oldMember, isVoice⟩ := List.mem_map.mp member
  subst voice
  split
  · exact keeps (before old oldMember)
  · exact before old oldMember

end VoicePool

variable [Transcendental]

namespace Voice

/-- The voice that a layer can start in: a sounding one is freed before. -/
def vacated (voice : Voice) : Voice :=
  if voice.isFree then voice else voice.free.2

/-- A property that everything that is done to a voice keeps. -/
structure Invariant (holds : Voice → Prop) : Prop where
  free :
    ∀ {voice : Voice},
      holds voice →
      holds voice.free.2
  start :
    ∀ (note : Note) (source : BankReference) (zone : Zone) {voice : Voice},
      holds voice →
      holds (voice.start note source zone)
  release :
    ∀ {voice : Voice},
      holds voice →
      holds voice.release
  forceRelease :
    ∀ (seconds : Float32) {voice : Voice},
      holds voice →
      holds (voice.forceRelease seconds)
  sounded :
    ∀ (frames : Nat) (mix : ChannelMix) (method : Interpolation)
        {voice : Voice},
      holds voice →
      holds (voice.sounded frames mix method)

end Voice

namespace VoicePool

/-- One layer leaves a slot alone, or starts in it. -/
theorem LayerStart.voice
    {note : Note}
    {source : BankReference}
    {zone : Zone}
    {pool after : VoicePool}
    {stolen? : Option StolenVoice}
    (layer : pool.LayerStart note source zone stolen? after)
    {slot : Nat}
    {before : Voice}
    (present : pool.voices[slot]? = some before) :
    ∃ last,
      after.voices[slot]? = some last ∧
        (last = before ∨
          last = before.vacated.start note source zone ∧
            (before.isFree ∨ before.serial ≠ note.serial)) := by
  cases layer with
  | @found place old there free =>
      by_cases same : place = slot
      · subst place
        have isOld : old = before := Option.some.inj (there.symm.trans present)
        subst old
        have inside := (List.getElem?_eq_some_iff.mp present).1
        refine ⟨before.start note source zone, by simp [inside], .inr ?_⟩
        simp [Voice.vacated, free]
      · exact ⟨before, by simp [same, present], .inl rfl⟩
  | @stolen place victim noneFree there other =>
      by_cases same : place = slot
      · subst place
        have isVictim : victim = before :=
          Option.some.inj (there.symm.trans present)
        subst victim
        have inside := (List.getElem?_eq_some_iff.mp present).1
        have sounding := noneFree before (List.mem_of_getElem? present)
        refine
          ⟨before.free.2.start note source zone, by simp [inside], .inr ?_⟩
        simp [Voice.vacated, sounding, other]
      · exact ⟨before, by simp [same, present], .inl rfl⟩

/--
However many layers start, each slot keeps its voice or is the place of one
layer, since a note neither finds its own voices free nor steals them.
-/
theorem startLayers_voice
    (note : Note)
    (source : BankReference)
    (zones : List Zone)
    (pool : VoicePool)
    {slot : Nat}
    {before : Voice}
    (present : pool.voices[slot]? = some before) :
    ∃ last,
      (pool.startLayers note source zones).2.voices[slot]? = some last ∧
        (last = before ∨
          ∃ zone ∈ zones,
            last = before.vacated.start note source zone ∧
              (before.isFree ∨ before.serial ≠ note.serial)) := by
  induction zones generalizing pool before with
  | nil =>
      exact ⟨before, present, .inl rfl⟩
  | cons zone rest inductionHypothesis =>
      cases allocated : pool.allocate? note.serial with
      | none =>
          simp only [startLayers, allocated]
          exact ⟨before, present, .inl rfl⟩
      | some result =>
          obtain ⟨allocation, ready⟩ := result
          obtain ⟨middle, middlePresent, first⟩ :=
            (layerStart allocated source zone).voice present
          obtain ⟨last, lastPresent, later⟩ :=
            inductionHypothesis _ middlePresent
          simp only [startLayers, allocated]
          refine ⟨last, lastPresent, ?_⟩
          rcases first with same | ⟨started, cause⟩
          · subst middle
            rcases later with kept | ⟨other, member, again⟩
            · exact .inl kept
            · exact .inr ⟨other, List.mem_cons_of_mem zone member, again⟩
          · rcases later with kept | ⟨other, member, again, free | taken⟩
            · exact .inr ⟨zone, by simp, kept.trans started, cause⟩
            · rw [started] at free
              cases free
            · rw [started] at taken
              exact absurd rfl taken

/-- What holds of all voices, and of those that a note starts, holds after it. -/
theorem forall_startLayers
    (holds : Voice → Prop)
    {note : Note}
    {source : BankReference}
    {zones : List Zone}
    {pool : VoicePool}
    (starts :
      ∀ voice ∈ pool.voices,
        ∀ zone ∈ zones,
          holds (voice.vacated.start note source zone))
    (before : ∀ voice ∈ pool.voices, holds voice) :
    ∀ voice ∈ (pool.startLayers note source zones).2.voices, holds voice := by
  intro voice member
  obtain ⟨slot, inside, isVoice⟩ := List.getElem_of_mem member
  have insideBefore : slot < pool.voices.length := by
    rw [← length_startLayers note source zones pool]
    exact inside
  obtain ⟨last, present, course⟩ :=
    pool.startLayers_voice note source zones
      (List.getElem?_eq_getElem insideBefore)
  rw [List.getElem?_eq_getElem inside, isVoice] at present
  cases present
  rcases course with kept | ⟨zone, zoneMember, started, -⟩
  · rw [kept]
    exact before _ (List.getElem_mem insideBefore)
  · rw [started]
    exact starts _ (List.getElem_mem insideBefore) zone zoneMember

end VoicePool

namespace Voice.Invariant

variable {holds : Voice → Prop}

theorem vacated
    (invariant : Voice.Invariant holds)
    {voice : Voice}
    (before : holds voice) :
    holds voice.vacated := by
  unfold Voice.vacated
  split
  · exact before
  · exact invariant.free before

/-- What is kept while a voice sounds is kept to the end of a block. -/
theorem blockEnd
    (invariant : Voice.Invariant holds)
    (frames : Nat)
    (channels : List Channel)
    (method : Interpolation)
    {voice : Voice}
    (before : holds voice) :
    holds (voice.blockEnd frames channels method).2 := by
  have sounded :=
    invariant.sounded frames (VoicePool.mixFor channels voice) method before
  unfold Voice.blockEnd
  dsimp only
  split
  · exact before
  · split
    · exact invariant.free sounded
    · exact sounded

theorem startLayers
    (invariant : Voice.Invariant holds)
    (note : Note)
    (source : BankReference)
    (zones : List Zone)
    {pool : VoicePool}
    (before : ∀ voice ∈ pool.voices, holds voice) :
    ∀ voice ∈ (pool.startLayers note source zones).2.voices, holds voice :=
  VoicePool.forall_startLayers holds
    (fun voice member zone _ =>
      invariant.start note source zone (invariant.vacated (before voice member)))
    before

/-- What every voice keeps, a synthesizer keeps of all of its voices. -/
theorem synth
    (invariant : Voice.Invariant holds) :
    Synth.Invariant fun synth => ∀ voice ∈ synth.pool.voices, holds voice where
  mutation := by
    intro mutation synth before
    have change := mutation.poolChange synth
    generalize (mutation.apply synth).pool = after at change ⊢
    generalize mutation.cause = cause at change
    cases change with
    | unchanged => exact before
    | layers note zones loaded =>
        exact invariant.startLayers note _ zones before
    | released condition =>
        exact VoicePool.forall_changeWhere holds invariant.release condition before
    | cut condition seconds =>
        exact VoicePool.forall_changeWhere holds
          (invariant.forceRelease seconds) condition before
  drops := by
    intro parked synth _ before
    exact before
  block := by
    intro frames synth before voice member
    rw [Synth.renderBlock_eq, VoicePool.render_eq] at member
    obtain ⟨old, oldMember, isVoice⟩ := List.mem_map.mp member
    subst voice
    exact invariant.blockEnd frames _ _ (before old oldMember)

/-- What a new voice has and every voice keeps, all voices of a session have. -/
theorem run
    (invariant : Voice.Invariant holds)
    (configuration : SynthConfiguration)
    (initially : holds (.new configuration.sampleRate))
    (actions : List Action) :
    ∀ voice ∈ ((Synth.new configuration).run actions).pool.voices,
      holds voice := by
  apply invariant.synth.run actions
  intro voice member
  rw [List.eq_of_mem_replicate member]
  exact initially

end Voice.Invariant

end Polyphony.Engine
