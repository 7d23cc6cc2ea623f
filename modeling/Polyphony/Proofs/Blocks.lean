import Polyphony.Engine.Rendering
import Polyphony.Proofs.VoiceLife

namespace Polyphony.Engine

/-!
# Blocks of sound

Voices are mixed one after the other, each onto what the others have left on
the bus.  What becomes of a voice depends on itself alone, and so a block acts
on the slots one by one, and on the queue in the order of the slots.
-/

open Number (Transcendental)
open Sound (Interpolation)

/-- Some frames take some blocks, unless there are no frames. -/
theorem blockSizes_ne_nil
    {frames : Nat}
    (some : 1 ≤ frames) :
    blockSizes frames ≠ [] := by
  unfold blockSizes blockSize
  by_cases partly : frames % 2048 = 0
  · have full : frames / 2048 ≠ 0 := by omega
    simp [partly, full]
  · simp [partly]

namespace VoicePool

/-- The voices of all slots are well formed. -/
def WellFormed (pool : VoicePool) : Prop :=
  ∀ voice ∈ pool.voices, voice.WellFormed

theorem wellFormed_new
    (outputRate : Float32)
    (polyphony queueCapacity : Nat) :
    (VoicePool.new outputRate polyphony queueCapacity).WellFormed := by
  intro voice member
  rw [List.eq_of_mem_replicate member]
  exact .new outputRate

variable [Transcendental]

/-- What the voices hand back at the end of a block, by slot. -/
def handedBack
    (frames : Nat)
    (channels : List Channel)
    (method : Interpolation)
    (voices : List Voice) :
    List (Option BankReference) :=
  voices.map fun voice => (voice.blockEnd frames channels method).1

theorem renderVoice_eq
    (frames : Nat)
    (channels : List Channel)
    (method : Interpolation)
    (mixdown : Mixdown)
    (voice : Voice) :
    (renderVoice frames channels method mixdown voice).2 =
        (voice.blockEnd frames channels method).2 ∧
      (renderVoice frames channels method mixdown voice).1.retired =
        mixdown.retired.retire (voice.blockEnd frames channels method).1 := by
  by_cases free : voice.isFree
  · simp [renderVoice, Voice.blockEnd, free, ReclamationQueue.retire]
  · by_cases done :
      (voice.sounded frames (mixFor channels voice) method).isDone
    · simp [renderVoice, Voice.blockEnd, Voice.render_voice, free, done]
    · simp [renderVoice, Voice.blockEnd, Voice.render_voice, free, done,
        ReclamationQueue.retire]

theorem renderVoices_eq
    (frames : Nat)
    (channels : List Channel)
    (method : Interpolation)
    (mixdown : Mixdown)
    (voices : List Voice) :
    (renderVoices frames channels method mixdown voices).2 =
        voices.map (fun voice => (voice.blockEnd frames channels method).2) ∧
      (renderVoices frames channels method mixdown voices).1.retired =
        (handedBack frames channels method voices).foldl
          (fun queue reference? => queue.retire reference?)
          mixdown.retired := by
  induction voices generalizing mixdown with
  | nil =>
      exact ⟨rfl, rfl⟩
  | cons voice rest inductionHypothesis =>
      obtain ⟨sameVoice, sameQueue⟩ :=
        renderVoice_eq frames channels method mixdown voice
      obtain ⟨sameRest, sameLast⟩ :=
        inductionHypothesis
          (renderVoice frames channels method mixdown voice).1
      simp only [renderVoices, handedBack, List.map_cons, List.foldl_cons]
      rw [sameVoice, sameRest, sameLast, sameQueue]
      exact ⟨rfl, rfl⟩

/-- A block takes every voice to its end, and queues what they hand back. -/
theorem render_eq
    (frames : Nat)
    (channels : List Channel)
    (method : Interpolation)
    (pool : VoicePool) :
    (pool.render frames channels method).2 =
      { voices :=
          pool.voices.map fun voice =>
            (voice.blockEnd frames channels method).2
        retired :=
          (handedBack frames channels method pool.voices).foldl
            (fun queue reference? => queue.retire reference?)
            pool.retired } := by
  obtain ⟨sameVoices, sameQueue⟩ :=
    renderVoices_eq frames channels method ⟨.silent frames, pool.retired⟩
      pool.voices
  simp only [render]
  rw [sameVoices, sameQueue]

end VoicePool

namespace Synth

variable [Transcendental]

theorem renderBlock_eq
    (frames : Nat)
    (synth : Synth) :
    (synth.renderBlock frames).2 =
      { synth with
        pool :=
          (synth.pool.render frames synth.channels
            synth.configuration.interpolation).2 } := by
  rfl

/-- Nothing but the voices and the queue changes while sound is rendered. -/
theorem renderBlocks_eq
    (sizes : List Nat)
    (synth : Synth) :
    (synth.renderBlocks sizes).2 =
      { synth with pool := (synth.renderBlocks sizes).2.pool } := by
  induction sizes generalizing synth with
  | nil =>
      rfl
  | cons frames rest inductionHypothesis =>
      exact inductionHypothesis (synth.renderBlock frames).2

end Synth

end Polyphony.Engine
