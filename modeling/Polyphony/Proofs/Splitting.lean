import Mathlib.Data.List.Basic
import Polyphony.Proofs.Conservation
import Polyphony.Proofs.Waning

/-!
# Blocks that are split

A block of sound can be made in one piece or in two.  A voice that ends in the
first piece is freed at once, where it would play on in silence to the end of
the whole; it does not matter, since a voice that is done stays done, and one
that has settled stays settled.  So both ways leave the same synthesizer, up to
what free voices remember of their past.
-/

namespace Polyphony.Sound.Envelope

open EnvelopeStage

/-- An envelope that has come to its peak does not rise again. -/
theorem stage_next_not_rising
    {envelope : Envelope}
    (past : ¬ envelope.stage.isRising) :
    ¬ envelope.next.stage.isRising := by
  have ofSettled :
      ∀ stage : EnvelopeStage,
        stage.isSettled ∨ stage = .idle →
        ¬ stage.isRising := by
    intro stage settled
    cases stage <;> simp_all [isSettled, isRising]
  refine stage_next (fun stage => ¬ stage.isRising) ?_ past
  intro ended past
  unfold enterNext
  split
  · rename_i delayed
    simp [delayed, isRising] at past
  · rename_i attacking
    simp [attacking, isRising] at past
  · exact ofSettled _ (stage_enterDecay ended)
  · exact ofSettled _ (stage_enterSustain ended)
  · exact ofSettled _ (stage_enterSustain ended)
  · simp [isRising]
  · simp [isRising]

end Polyphony.Sound.Envelope

namespace Polyphony.Engine

open Number (Transcendental)
open Sound (Cursor Envelope EnvelopeStage Interpolation)

namespace Voice

/-! ## Samples in two parts -/

section Samples

variable (pool : Array Int16) (method : Interpolation) (step : Float)

/-- Samples that are made in two parts are those that are made at once. -/
theorem samples_add
    (first second : Nat)
    (voice : Voice) :
    let earlier := voice.samples pool method step first
    let later := earlier.2.samples pool method step second
    voice.samples pool method step (first + second) =
      (earlier.1 ++ later.1, later.2) := by
  induction first generalizing voice with
  | zero =>
      simp [samples]
  | succ first inductionHypothesis =>
      rw [Nat.succ_add]
      simp [samples, inductionHypothesis]

/-- What each sample keeps, any number of samples keeps. -/
theorem samples_keep
    (holds : Voice → Prop)
    (keeps :
      ∀ {voice : Voice},
        holds voice →
        holds (voice.nextSample pool method step).2)
    (count : Nat)
    {voice : Voice}
    (before : holds voice) :
    holds (voice.samples pool method step count).2 := by
  induction count generalizing voice with
  | zero =>
      exact before
  | succ count inductionHypothesis =>
      exact inductionHypothesis (keeps before)

/-- Nothing of a voice that is done can begin again. -/
theorem isDone_nextSample
    {voice : Voice}
    (done : voice.isDone) :
    (voice.nextSample pool method step).2.isDone := by
  by_cases finished : voice.cursor.finished
  · simp [isDone, nextSample, Cursor.advance, finished]
  · have resting : voice.envelope.stage = .idle := by
      simpa [isDone, Envelope.isActive, finished] using done
    simp [isDone, Envelope.isActive, nextSample,
      Envelope.next_of_idle resting]

/-- Which of the states a voice is in has no part in its samples. -/
theorem samples_withState
    (state : VoiceState)
    (count : Nat)
    (voice : Voice) :
    { voice with state := state }.samples pool method step count =
      ((voice.samples pool method step count).1,
        { (voice.samples pool method step count).2 with state := state }) := by
  induction count generalizing voice with
  | zero =>
      rfl
  | succ count inductionHypothesis =>
      have moved :
          { voice with state := state }.nextSample pool method step =
            ((voice.nextSample pool method step).1,
              { (voice.nextSample pool method step).2 with state := state }) :=
        rfl
      simp only [samples, moved, inductionHypothesis]

/-- To settle is to change the state at most. -/
theorem exists_settle (voice : Voice) :
    ∃ state, voice.settle = { voice with state := state } := by
  unfold settle
  split
  · exact ⟨.sustaining, rfl⟩
  · exact ⟨voice.state, rfl⟩

/-- To settle between samples makes no difference to them. -/
theorem samples_settle
    (count : Nat)
    (voice : Voice) :
    (voice.settle.samples pool method step count).1 =
        (voice.samples pool method step count).1 ∧
      (voice.settle.samples pool method step count).2.settle =
        (voice.samples pool method step count).2.settle := by
  rcases voice.settle_eq with
    ⟨unchanged, -⟩ | ⟨settled, attacking, past⟩
  · rw [unchanged]
    exact ⟨rfl, rfl⟩
  · rw [settled, samples_withState]
    refine ⟨rfl, ?_⟩
    obtain ⟨cursor, shape⟩ := voice.samples_eq pool method step count
    have stillPast :
        ¬ (voice.envelope.levels count).2.stage.isRising :=
      Envelope.stage_levels (fun stage => ¬ stage.isRising)
        Envelope.stage_next_not_rising count past
    rw [shape]
    cases stage : (voice.envelope.levels count).2.stage <;>
      simp_all [settle, EnvelopeStage.isRising]

end Samples

/-! ## Blocks in two parts -/

/-- Two voices are the same, or are both free. -/
def Alike (first second : Voice) : Prop :=
  first = second ∨ first.isFree ∧ second.isFree

theorem Alike.trans
    {first second third : Voice}
    (earlier : first.Alike second)
    (later : second.Alike third) :
    first.Alike third := by
  rcases earlier with same | ⟨firstFree, secondFree⟩
  · subst second
    exact later
  · rcases later with same | ⟨-, thirdFree⟩
    · subst third
      exact .inr ⟨firstFree, secondFree⟩
    · exact .inr ⟨firstFree, thirdFree⟩

theorem Alike.symm
    {first second : Voice}
    (alike : first.Alike second) :
    second.Alike first :=
  alike.imp Eq.symm And.symm

/-- Voices that are alike hold the same reference, or none. -/
theorem Alike.source?_eq
    {first second : Voice}
    (alike : first.Alike second)
    (firstWellFormed : first.WellFormed)
    (secondWellFormed : second.WellFormed) :
    first.source? = second.source? := by
  rcases alike with same | ⟨firstFree, secondFree⟩
  · rw [same]
  · rw [firstWellFormed.source?_of_free firstFree,
      secondWellFormed.source?_of_free secondFree]

variable [Transcendental]

/-- What a voice with a bank is after some frames. -/
theorem sounded_of_sourced
    {voice : Voice}
    {source : BankReference}
    (held : voice.source? = some source)
    (frames : Nat)
    (mix : ChannelMix)
    (method : Interpolation) :
    voice.sounded frames mix method =
      (voice.samples source.bank.samples method (voice.step mix.bend)
        frames).2.settle := by
  simp [sounded, render, held]

/-- Sounding changes nothing but the state, the envelope and the cursor. -/
theorem exists_sounded
    (frames : Nat)
    (mix : ChannelMix)
    (method : Interpolation)
    (voice : Voice) :
    ∃ state envelope cursor,
      voice.sounded frames mix method =
        { voice with
          state := state
          envelope := envelope
          cursor := cursor } := by
  by_cases sourced : ∃ source, voice.source? = some source
  · obtain ⟨source, held⟩ := sourced
    obtain ⟨cursor, shape⟩ := sounded_eq held frames mix method
    obtain ⟨state, settled⟩ :=
      exists_settle
        { voice with
          envelope := (voice.envelope.levels frames).2
          cursor := cursor }
    exact ⟨state, _, cursor, shape.trans settled⟩
  · have unsourced : voice.source? = none :=
      Option.eq_none_iff_forall_ne_some.mpr (not_exists.mp sourced)
    exact ⟨voice.state, voice.envelope, voice.cursor,
      sounded_of_unsourced unsourced frames mix method⟩

theorem source?_sounded
    (frames : Nat)
    (mix : ChannelMix)
    (method : Interpolation)
    (voice : Voice) :
    (voice.sounded frames mix method).source? = voice.source? := by
  obtain ⟨state, envelope, cursor, shape⟩ :=
    voice.exists_sounded frames mix method
  rw [shape]

theorem step_sounded
    (frames : Nat)
    (mix : ChannelMix)
    (method : Interpolation)
    (bend : Float32)
    (voice : Voice) :
    (voice.sounded frames mix method).step bend = voice.step bend := by
  obtain ⟨state, envelope, cursor, shape⟩ :=
    voice.exists_sounded frames mix method
  rw [shape]
  rfl

/-- Sounding in two parts, and settling after each, is sounding at once. -/
theorem sounded_add
    (first second : Nat)
    (mix : ChannelMix)
    (method : Interpolation)
    (voice : Voice) :
    voice.sounded (first + second) mix method =
      (voice.sounded first mix method).sounded second mix method := by
  cases held : voice.source? with
  | none =>
      rw [sounded_of_unsourced held, sounded_of_unsourced held,
        sounded_of_unsourced held]
  | some source =>
      have earlyHeld :
          (voice.sounded first mix method).source? = some source := by
        rwa [source?_sounded]
      rw [sounded_of_sourced held, sounded_of_sourced earlyHeld, step_sounded,
        sounded_of_sourced held, samples_add]
      exact (samples_settle _ method _ second _).2.symm

theorem isDone_sounded
    {voice : Voice}
    (done : voice.isDone)
    (frames : Nat)
    (mix : ChannelMix)
    (method : Interpolation) :
    (voice.sounded frames mix method).isDone := by
  cases held : voice.source? with
  | none => rwa [sounded_of_unsourced held]
  | some source =>
      rw [sounded_of_sourced held, isDone_settle]
      exact samples_keep _ method _ (fun played => played.isDone)
        (isDone_nextSample _ method _) frames done

theorem isFree_sounded
    (frames : Nat)
    (mix : ChannelMix)
    (method : Interpolation)
    (voice : Voice) :
    (voice.sounded frames mix method).isFree = voice.isFree := by
  cases held : voice.source? with
  | none => rw [sounded_of_unsourced held]
  | some source =>
      obtain ⟨cursor, shape⟩ := sounded_eq held frames mix method
      rw [shape]
      rcases settle_eq
          { voice with
            envelope := (voice.envelope.levels frames).2
            cursor := cursor } with
        ⟨unchanged, -⟩ | ⟨settled, attacking, -⟩
      · rw [unchanged]
        rfl
      · rw [settled]
        have wasAttacking : voice.state = .attacking := attacking
        simp [isFree, wasAttacking]

theorem blockEnd_of_free
    {voice : Voice}
    (free : voice.isFree)
    (frames : Nat)
    (channels : List Channel)
    (method : Interpolation) :
    voice.blockEnd frames channels method = (none, voice) := by
  simp [blockEnd, free]

theorem blockEnd_of_done
    {voice : Voice}
    {frames : Nat}
    {channels : List Channel}
    {method : Interpolation}
    (sounding : ¬ voice.isFree)
    (done :
      (voice.sounded frames (VoicePool.mixFor channels voice) method).isDone) :
    voice.blockEnd frames channels method =
      (voice.sounded frames (VoicePool.mixFor channels voice) method).free := by
  simp [blockEnd, sounding, done]

theorem blockEnd_of_not_done
    {voice : Voice}
    {frames : Nat}
    {channels : List Channel}
    {method : Interpolation}
    (sounding : ¬ voice.isFree)
    (notDone :
      ¬ (voice.sounded frames (VoicePool.mixFor channels voice) method).isDone) :
    voice.blockEnd frames channels method =
      (none,
        voice.sounded frames (VoicePool.mixFor channels voice) method) := by
  simp [blockEnd, sounding, notDone]

/-- A voice stays on its channel. -/
theorem mixFor_sounded
    (frames : Nat)
    (mix : ChannelMix)
    (method : Interpolation)
    (channels : List Channel)
    (voice : Voice) :
    VoicePool.mixFor channels (voice.sounded frames mix method) =
      VoicePool.mixFor channels voice := by
  obtain ⟨state, envelope, cursor, shape⟩ :=
    voice.exists_sounded frames mix method
  rw [shape]
  rfl

/-- A block in two parts leaves of a voice what the whole block leaves of it. -/
theorem blockEnd_add
    (first second : Nat)
    (channels : List Channel)
    (method : Interpolation)
    (voice : Voice) :
    (voice.blockEnd (first + second) channels method).2.Alike
      ((voice.blockEnd first channels method).2.blockEnd second channels
        method).2 := by
  by_cases free : voice.isFree
  · rw [blockEnd_of_free free, blockEnd_of_free free, blockEnd_of_free free]
    exact .inl rfl
  · have whole :=
      sounded_add first second (VoicePool.mixFor channels voice) method voice
    have sameMix :=
      mixFor_sounded first (VoicePool.mixFor channels voice) method channels voice
    have sounding :
        ¬ (voice.sounded first (VoicePool.mixFor channels voice)
          method).isFree := by
      rwa [isFree_sounded]
    by_cases done :
      (voice.sounded first (VoicePool.mixFor channels voice) method).isDone
    · -- The first part frees the voice, and the whole block does so later.
      have wholeDone :=
        isDone_sounded done second (VoicePool.mixFor channels voice) method
      rw [← whole] at wholeDone
      rw [blockEnd_of_done free done, blockEnd_of_done free wholeDone,
        blockEnd_of_free rfl]
      exact .inr ⟨rfl, rfl⟩
    · refine .inl ?_
      rw [blockEnd_of_not_done free done]
      simp [blockEnd, free, sounding, whole, sameMix]

/-- What some blocks, one after the other, leave of a voice. -/
def afterBlocks
    (sizes : List Nat)
    (channels : List Channel)
    (method : Interpolation)
    (voice : Voice) :
    Voice :=
  sizes.foldl (fun left frames => (left.blockEnd frames channels method).2)
    voice

/-- However a block is cut, it leaves of a voice what it leaves uncut. -/
theorem afterBlocks_alike
    {sizes : List Nat}
    (some : sizes ≠ [])
    (channels : List Channel)
    (method : Interpolation)
    (voice : Voice) :
    (voice.blockEnd sizes.sum channels method).2.Alike
      (voice.afterBlocks sizes channels method) := by
  induction sizes generalizing voice with
  | nil =>
      exact absurd rfl some
  | cons frames rest inductionHypothesis =>
      by_cases last : rest = []
      · subst rest
        exact .inl rfl
      · have cut := voice.blockEnd_add frames rest.sum channels method
        have others :=
          inductionHypothesis last (voice.blockEnd frames channels method).2
        rw [List.sum_cons]
        exact cut.trans others

end Voice

namespace Synth

/--
Two synthesizers are the same but for what free voices remember of their past
and for the order in which references are parked.
-/
structure Alike (first second : Synth) : Prop where
  configuration : first.configuration = second.configuration
  channels : first.channels = second.channels
  banks : first.banks = second.banks
  nextSerial : first.nextSerial = second.nextSerial
  sameSlots : first.pool.voices.length = second.pool.voices.length
  voices :
    ∀ (slot : Nat) (voice other : Voice),
      first.pool.voices[slot]? = some voice →
      second.pool.voices[slot]? = some other →
      voice.Alike other
  capacity : first.pool.retired.capacity = second.pool.retired.capacity
  refused : first.pool.retired.refused = second.pool.retired.refused
  parked : first.pool.retired.parked.Perm second.pool.retired.parked

theorem Alike.refl (synth : Synth) :
    synth.Alike synth where
  configuration := rfl
  channels := rfl
  banks := rfl
  nextSerial := rfl
  sameSlots := rfl
  voices := by
    intro slot voice other present otherPresent
    rw [present] at otherPresent
    exact .inl (Option.some.inj otherPresent)
  capacity := rfl
  refused := rfl
  parked := .refl _

variable [Transcendental]

/-- Blocks in two parts are the blocks of one part, and then those of the other. -/
theorem renderBlocks_append
    (first second : List Nat)
    (synth : Synth) :
    let earlier := synth.renderBlocks first
    let later := earlier.2.renderBlocks second
    synth.renderBlocks (first ++ second) = (earlier.1 ++ later.1, later.2) := by
  induction first generalizing synth with
  | nil =>
      rfl
  | cons frames rest inductionHypothesis =>
      simp [renderBlocks, inductionHypothesis]

/-- Blocks act on each voice for itself. -/
theorem renderBlocks_voices
    (sizes : List Nat)
    (synth : Synth) :
    (synth.renderBlocks sizes).2.pool.voices =
      synth.pool.voices.map fun voice =>
        voice.afterBlocks sizes synth.channels
          synth.configuration.interpolation := by
  induction sizes generalizing synth with
  | nil =>
      simp [renderBlocks, Voice.afterBlocks]
  | cons frames rest inductionHypothesis =>
      have others := inductionHypothesis (synth.renderBlock frames).2
      simp only [renderBlocks]
      rw [others, renderBlock_eq, VoicePool.render_eq, List.map_map]
      rfl

/--
Blocks of the same number of frames, however they are cut, leave synthesizers
that are alike.
-/
theorem renderBlocks_alike
    {configuration : SynthConfiguration}
    {synth : Synth}
    (roomy : synth.pool.Roomy configuration 0)
    {sizes others : List Nat}
    (some : sizes ≠ [])
    (othersSome : others ≠ [])
    (sameFrames : sizes.sum = others.sum) :
    (synth.renderBlocks sizes).2.Alike (synth.renderBlocks others).2 := by
  have atMost : 0 ≤ configuration.polyphony := Nat.zero_le _
  have sameVoices :
      ∀ voice : Voice,
        (voice.afterBlocks sizes synth.channels
            synth.configuration.interpolation).Alike
          (voice.afterBlocks others synth.channels
            synth.configuration.interpolation) := by
    intro voice
    have uncut :=
      voice.afterBlocks_alike some synth.channels
        synth.configuration.interpolation
    have otherUncut :=
      voice.afterBlocks_alike othersSome synth.channels
        synth.configuration.interpolation
    rw [sameFrames] at uncut
    exact uncut.symm.trans otherUncut
  have sameHeld :
      VoicePool.heldBy (synth.renderBlocks sizes).2.pool.voices =
        VoicePool.heldBy (synth.renderBlocks others).2.pool.voices := by
    have wellFormed :=
      (renderBlocks_roomy roomy atMost sizes).wellFormed
    have othersWellFormed :=
      (renderBlocks_roomy roomy atMost others).wellFormed
    unfold VoicePool.WellFormed at wellFormed othersWellFormed
    rw [renderBlocks_voices] at wellFormed othersWellFormed
    rw [renderBlocks_voices, renderBlocks_voices, VoicePool.heldBy,
      VoicePool.heldBy, List.filterMap_map, List.filterMap_map]
    apply List.filterMap_congr
    intro voice member
    exact (sameVoices voice).source?_eq
      (wellFormed _ (List.mem_map_of_mem member))
      (othersWellFormed _ (List.mem_map_of_mem member))
  obtain ⟨moved, queued, perm⟩ := renderBlocks_moves roomy atMost sizes
  obtain ⟨othersMoved, othersQueued, othersPerm⟩ :=
    renderBlocks_moves roomy atMost others
  rw [sameHeld] at perm
  have sameMoved : moved.Perm othersMoved :=
    (List.perm_append_right_iff _).mp (perm.symm.trans othersPerm)
  refine {
    configuration := by rw [renderBlocks_eq, renderBlocks_eq others]
    channels := by rw [renderBlocks_eq, renderBlocks_eq others]
    banks := by rw [renderBlocks_eq, renderBlocks_eq others]
    nextSerial := by rw [renderBlocks_eq, renderBlocks_eq others]
    sameSlots := by simp [renderBlocks_voices]
    voices := ?_
    capacity := by rw [queued, othersQueued]
    refused := by rw [queued, othersQueued]
    parked := by
      rw [queued, othersQueued]
      exact sameMoved.append_left _
  }
  intro slot voice other present otherPresent
  rw [renderBlocks_voices, List.getElem?_map, Option.map_eq_some_iff]
    at present otherPresent
  obtain ⟨old, oldPresent, isVoice⟩ := present
  obtain ⟨otherOld, otherOldPresent, isOther⟩ := otherPresent
  rw [oldPresent] at otherOldPresent
  cases otherOldPresent
  rw [← isVoice, ← isOther]
  exact sameVoices old

/-- Frames that are rendered in two calls leave what one call leaves. -/
theorem render_add_alike
    {configuration : SynthConfiguration}
    {synth : Synth}
    (roomy : synth.pool.Roomy configuration 0)
    (first second : Nat) :
    (synth.render (first + second)).2.Alike
      ((synth.render first).2.render second).2 := by
  have inTwoCalls :
      ((synth.render first).2.render second).2 =
        (synth.renderBlocks (blockSizes first ++ blockSizes second)).2 := by
    rw [renderBlocks_append]
    rfl
  rw [inTwoCalls, render]
  by_cases nothing : first + second = 0
  · obtain ⟨noFirst, noSecond⟩ := Nat.add_eq_zero_iff.mp nothing
    subst noFirst noSecond
    exact .refl _
  · have some : blockSizes (first + second) ≠ [] :=
      blockSizes_ne_nil (by omega)
    have othersSome : blockSizes first ++ blockSizes second ≠ [] := by
      intro none
      obtain ⟨noFirst, noSecond⟩ := List.append_eq_nil_iff.mp none
      have firstFrames := sum_blockSizes first
      have secondFrames := sum_blockSizes second
      rw [noFirst] at firstFrames
      rw [noSecond] at secondFrames
      simp at firstFrames secondFrames
      omega
    apply renderBlocks_alike roomy some othersSome
    rw [List.sum_append, sum_blockSizes, sum_blockSizes, sum_blockSizes]

end Synth

end Polyphony.Engine
