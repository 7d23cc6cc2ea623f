import Polyphony.Engine.VoicePool
import Polyphony.Proofs.EnvelopeStages

namespace Polyphony.Engine

/-!
# The life of a voice

The state of a voice, the stage of its envelope, the end of its cursor, the
reference to its bank and the handle of that bank are kept apart, and change in
different places.  A voice
is well formed if they tell the same story.  Whatever is done to a well-formed
voice leaves it well formed.
-/

open Instrument (Zone)
open Number (Transcendental)
open Sound (Bus Cursor Envelope EnvelopeStage Interpolation)

namespace VoiceState

/-- Whether an envelope in a stage can shape a voice in a state. -/
def suits
    (stage : EnvelopeStage) :
    VoiceState → Bool
  | .free => stage = .idle
  | .attacking => stage ≠ .release
  | .sustaining => stage.isSettled
  | .releasing => stage.isFading

@[simp] theorem suits_free (stage : EnvelopeStage) :
    VoiceState.free.suits stage ↔ stage = .idle := by
  simp [suits]

@[simp] theorem suits_attacking (stage : EnvelopeStage) :
    VoiceState.attacking.suits stage ↔ stage ≠ .release := by
  simp [suits]

/-- Whether a voice in a state is held. -/
def isHeld : VoiceState → Bool
  | .attacking | .sustaining => true
  | .free | .releasing => false

end VoiceState

namespace Voice

/-- State, envelope, cursor and reference of a voice tell the same story. -/
structure WellFormed (voice : Voice) : Prop where
  /-- Exactly a free voice holds no bank. -/
  sourced : voice.state = .free ↔ voice.source? = none
  named : voice.bankId? = voice.source?.map (·.id)
  staged : voice.state.suits voice.envelope.stage
  /-- A free voice makes no sound. -/
  silent :
    voice.state = .free →
    voice.envelope.level = 0 ∧ voice.cursor.finished

/--
A voice goes on sounding: its envelope and its recording last, and it attacks
for as long as the envelope rises.
-/
structure Sounding (voice : Voice) : Prop where
  active : voice.envelope.isActive
  unfinished : voice.cursor.finished = false
  attacks : voice.state = .attacking ↔ voice.envelope.stage.isRising

theorem isFree_iff (voice : Voice) :
    voice.isFree ↔ voice.state = .free := by
  simp [isFree]

theorem isHeld_eq (voice : Voice) :
    voice.isHeld = voice.state.isHeld := by
  unfold isHeld
  cases voice.state <;> rfl

/-- A held voice is sounding. -/
theorem not_isFree_of_isHeld
    {voice : Voice}
    (held : voice.isHeld) :
    ¬ voice.isFree := by
  intro free
  rw [isFree_iff] at free
  simp [isHeld, free] at held

namespace WellFormed

theorem source?_of_free
    {voice : Voice}
    (wellFormed : voice.WellFormed)
    (free : voice.isFree) :
    voice.source? = none :=
  wellFormed.sourced.mp (voice.isFree_iff.mp free)

theorem exists_source
    {voice : Voice}
    (wellFormed : voice.WellFormed)
    (sounding : ¬ voice.isFree) :
    ∃ source, voice.source? = some source := by
  cases held : voice.source? with
  | none =>
      exact absurd (voice.isFree_iff.mpr (wellFormed.sourced.mpr held)) sounding
  | some source =>
      exact ⟨source, rfl⟩

/-! ## What the control side does to a voice -/

theorem new (outputRate : Float32) : (Voice.new outputRate).WellFormed where
  sourced := by simp [Voice.new]
  named := rfl
  staged := rfl
  silent := fun _ => ⟨rfl, rfl⟩

/-- A started voice is well formed, whatever it was before. -/
theorem start
    [Transcendental]
    (note : Note)
    (source : BankReference)
    (zone : Zone)
    (voice : Voice) :
    (voice.start note source zone).WellFormed where
  sourced := by simp [Voice.start]
  named := rfl
  staged :=
    decide_eq_true (Envelope.stage_noteOn zone.envelope voice.envelope)
  silent := by
    intro free
    cases free

/-- A freed voice is well formed, whatever it was before. -/
theorem free (voice : Voice) : voice.free.2.WellFormed where
  sourced := by simp [Voice.free]
  named := rfl
  staged := rfl
  silent := fun _ => ⟨rfl, rfl⟩

/-- A released voice fades. -/
theorem release
    {voice : Voice}
    (wellFormed : voice.WellFormed) :
    voice.release.WellFormed := by
  unfold Voice.release
  split
  · rename_i held
    have notFree : voice.state ≠ .free := by
      intro free
      simp [isHeld, free] at held
    exact {
      sourced := by simpa [notFree] using wellFormed.sourced
      named := wellFormed.named
      staged := voice.envelope.stage_noteOff
      silent := by
        intro free
        cases free
    }
  · exact wellFormed

/-- A voice whose release is forced fades as well. -/
theorem forceRelease
    {voice : Voice}
    (wellFormed : voice.WellFormed)
    (seconds : Float32) :
    (voice.forceRelease seconds).WellFormed := by
  unfold Voice.forceRelease
  split
  · exact wellFormed
  · rename_i notFree
    rw [isFree_iff] at notFree
    exact {
      sourced := by simpa [notFree] using wellFormed.sourced
      named := wellFormed.named
      staged := voice.envelope.stage_forceRelease seconds
      silent := by
        intro free
        cases free
    }

end WellFormed

/-- A voice that is being released already is not touched by another release. -/
theorem release_of_not_held
    {voice : Voice}
    (notHeld : voice.isHeld = false) :
    voice.release = voice := by
  simp [release, notHeld]

@[simp] theorem source?_release (voice : Voice) :
    voice.release.source? = voice.source? := by
  unfold release
  split <;> rfl

@[simp] theorem source?_forceRelease
    (seconds : Float32)
    (voice : Voice) :
    (voice.forceRelease seconds).source? = voice.source? := by
  unfold forceRelease
  split <;> rfl

/-! ## What a block of sound does to a voice -/

/-- Samples move the envelope and the cursor, and nothing else. -/
theorem samples_eq
    (pool : Array Int16)
    (method : Interpolation)
    (step : Float)
    (count : Nat)
    (voice : Voice) :
    ∃ cursor,
      (voice.samples pool method step count).2 =
        { voice with
          envelope := (voice.envelope.levels count).2
          cursor := cursor } := by
  induction count generalizing voice with
  | zero =>
      exact ⟨voice.cursor, rfl⟩
  | succ count inductionHypothesis =>
      exact inductionHypothesis (nextSample pool method step voice).2

section

variable [Transcendental]

/-- The voice after it has sounded for some frames. -/
def sounded
    (frames : Nat)
    (mix : ChannelMix)
    (method : Interpolation)
    (voice : Voice) :
    Voice :=
  (voice.render frames mix method (.silent frames)).2

/-- What becomes of a voice does not depend on what others have played. -/
theorem render_voice
    (frames : Nat)
    (mix : ChannelMix)
    (method : Interpolation)
    (bus : Bus)
    (voice : Voice) :
    (voice.render frames mix method bus).2 =
      voice.sounded frames mix method := by
  unfold sounded render
  cases voice.source? <;> rfl

/-- A voice that holds a bank moves its envelope and its cursor, and settles. -/
theorem sounded_eq
    {voice : Voice}
    {source : BankReference}
    (held : voice.source? = some source)
    (frames : Nat)
    (mix : ChannelMix)
    (method : Interpolation) :
    ∃ cursor,
      voice.sounded frames mix method =
        settle
          { voice with
            envelope := (voice.envelope.levels frames).2
            cursor := cursor } := by
  obtain ⟨cursor, moved⟩ :=
    voice.samples_eq source.bank.samples method (voice.step mix.bend) frames
  refine ⟨cursor, ?_⟩
  simp only [sounded, render, held]
  rw [moved, held]

/-- What a block leaves of a voice.  One that is done hands its bank back. -/
def blockEnd
    (frames : Nat)
    (channels : List Channel)
    (method : Interpolation)
    (voice : Voice) :
    Option BankReference × Voice :=
  if voice.isFree then
    (none, voice)
  else
    let played :=
      voice.sounded frames (VoicePool.mixFor channels voice) method
    if played.isDone then played.free else (none, played)

end

/--
The ways in which a well-formed voice comes out of a block: it was free and
still is, it has ended and handed its bank back, or it keeps its bank and goes
on, past the end of its attack perhaps.
-/
inductive Outlasts (voice : Voice) : Option BankReference × Voice → Prop where
  | rested :
      voice.isFree →
      Outlasts voice (none, voice)
  | ended {after : Voice} :
      ¬ voice.isFree →
      after.isFree →
      after.WellFormed →
      Outlasts voice (voice.source?, after)
  | continued {after : Voice} :
      ¬ voice.isFree →
      after.source? = voice.source? →
      after.state = voice.state ∨
        voice.state = .attacking ∧ after.state = .sustaining →
      after.WellFormed →
      after.Sounding →
      Outlasts voice (none, after)

/-- A voice settles at the end of its attack, and at no other time. -/
theorem settle_eq (voice : Voice) :
    (voice.settle = voice ∧
        (voice.state = .attacking → voice.envelope.stage.isRising)) ∨
      (voice.settle = { voice with state := .sustaining } ∧
        voice.state = .attacking ∧ ¬ voice.envelope.stage.isRising) := by
  unfold settle
  split
  · rename_i past
    simp only [Bool.and_eq_true, decide_eq_true_eq] at past
    obtain ⟨⟨attacking, notDelayed⟩, notAttacking⟩ := past
    refine .inr ⟨rfl, attacking, ?_⟩
    cases stage : voice.envelope.stage <;>
      simp_all [EnvelopeStage.isRising]
  · rename_i notPast
    refine .inl ⟨rfl, fun attacking => ?_⟩
    cases stage : voice.envelope.stage <;>
      simp_all [EnvelopeStage.isRising]

@[simp] theorem source?_settle (voice : Voice) :
    voice.settle.source? = voice.source? := by
  unfold settle
  split <;> rfl

@[simp] theorem isDone_settle (voice : Voice) :
    voice.settle.isDone = voice.isDone := by
  unfold settle
  split <;> rfl

/-- A voice goes on while its envelope is active and its cursor has not ended. -/
theorem not_isDone_iff (voice : Voice) :
    ¬ voice.isDone ↔
      voice.envelope.stage ≠ .idle ∧ voice.cursor.finished = false := by
  simp [isDone, Envelope.isActive]

/-- An active envelope that no release has touched rises or has risen. -/
theorem isSettled_of_active
    {stage : EnvelopeStage}
    (active : stage ≠ .idle)
    (held : stage ≠ .release)
    (notRising : ¬ stage.isRising) :
    stage.isSettled := by
  cases stage with
  | idle => exact absurd rfl active
  | release => exact absurd rfl held
  | delay => exact absurd rfl notRising
  | attack => exact absurd rfl notRising
  | hold => rfl
  | decay => rfl
  | sustain => rfl

/-- A rising envelope suits no voice but an attacking one. -/
theorem attacking_of_suits
    {state : VoiceState}
    {stage : EnvelopeStage}
    (suits : state.suits stage)
    (rising : stage.isRising) :
    state = .attacking := by
  revert suits rising
  cases state <;> cases stage <;> decide

namespace WellFormed

/-- Samples leave the envelope in a stage that suits the voice, or at rest. -/
theorem staged_levels
    {voice : Voice}
    (wellFormed : voice.WellFormed)
    (frames : Nat) :
    (voice.envelope.levels frames).2.stage = .idle ∨
      voice.state.suits (voice.envelope.levels frames).2.stage := by
  have staged := wellFormed.staged
  cases state : voice.state with
  | free =>
      rw [state, VoiceState.suits_free] at staged
      refine .inl
        (Envelope.stage_levels (· = .idle) ?_ frames staged)
      intro envelope resting
      simp [Envelope.next, resting]
  | attacking =>
      rw [state, VoiceState.suits_attacking] at staged
      rw [VoiceState.suits_attacking]
      exact .inr
        (Envelope.stage_levels (· ≠ .release)
          Envelope.stage_next_ne_release frames staged)
  | sustaining =>
      rw [state] at staged
      exact
        (Envelope.stage_levels
          (fun stage => stage.isSettled ∨ stage = .idle)
          Envelope.stage_next_settled frames (.inl staged)).symm
  | releasing =>
      rw [state] at staged
      exact .inr
        (Envelope.stage_levels (fun stage => stage.isFading)
          Envelope.stage_next_fading frames staged)

theorem settle
    {voice : Voice}
    (wellFormed : voice.WellFormed)
    (notFree : voice.state ≠ .free)
    (notDone : ¬ voice.isDone) :
    voice.settle.WellFormed ∧ voice.settle.Sounding := by
  obtain ⟨active, unfinished⟩ := voice.not_isDone_iff.mp notDone
  have isActive : voice.envelope.isActive := decide_eq_true active
  rcases voice.settle_eq with
    ⟨unchanged, rises⟩ | ⟨settled, attacking, notRising⟩
  · rw [unchanged]
    exact ⟨wellFormed, {
      active := isActive
      unfinished := unfinished
      attacks := ⟨rises, attacking_of_suits wellFormed.staged⟩
    }⟩
  · have staged := wellFormed.staged
    rw [attacking, VoiceState.suits_attacking] at staged
    rw [settled]
    exact ⟨{
      sourced := by simpa [notFree] using wellFormed.sourced
      named := wellFormed.named
      staged := isSettled_of_active active staged notRising
      silent := by
        intro free
        cases free
    }, {
      active := isActive
      unfinished := unfinished
      attacks := by simp [notRising]
    }⟩

/-- A well-formed voice comes out of a block in one of these ways. -/
theorem outlasts
    [Transcendental]
    {voice : Voice}
    (wellFormed : voice.WellFormed)
    (frames : Nat)
    (channels : List Channel)
    (method : Interpolation) :
    voice.Outlasts (voice.blockEnd frames channels method) := by
  unfold blockEnd
  split
  · rename_i free
    exact .rested free
  · rename_i notFree
    have sounding : voice.state ≠ .free := by
      simpa [isFree] using notFree
    obtain ⟨source, held⟩ := wellFormed.exists_source notFree
    obtain ⟨cursor, soundedShape⟩ :=
      sounded_eq held frames (VoicePool.mixFor channels voice) method
    dsimp only
    rw [soundedShape]
    generalize playedShape :
      ({ voice with
          envelope := (voice.envelope.levels frames).2
          cursor := cursor } : Voice) = played
    have sameState : played.state = voice.state := by
      rw [← playedShape]
    have sameSource : played.source? = voice.source? := by
      rw [← playedShape]
    split
    · have handedBack :
          played.settle.free = (voice.source?, played.settle.free.2) := by
        simp [Voice.free, sameSource]
      rw [handedBack]
      exact .ended notFree rfl (WellFormed.free _)
    · rename_i notDone
      rw [isDone_settle] at notDone
      have playedWellFormed : played.WellFormed := by
        rcases wellFormed.staged_levels frames with resting | staged
        · refine absurd ?_ (played.not_isDone_iff.mp notDone).1
          rw [← playedShape]
          exact resting
        · exact {
            sourced := by
              rw [sameState, sameSource]
              exact wellFormed.sourced
            named := by
              rw [sameSource, ← wellFormed.named, ← playedShape]
            staged := by
              rw [← playedShape]
              exact staged
            silent := fun free => absurd (sameState ▸ free) sounding
          }
      obtain ⟨settledWellFormed, settledSounding⟩ :=
        playedWellFormed.settle (by rwa [sameState]) notDone
      refine .continued notFree ?_ ?_ settledWellFormed settledSounding
      · rw [source?_settle, sameSource]
      · rcases played.settle_eq with ⟨unchanged, -⟩ | ⟨settled, attacking, -⟩
        · exact .inl (by rw [unchanged, sameState])
        · exact .inr ⟨by rw [← sameState, attacking], by rw [settled]⟩

end WellFormed

end Voice

end Polyphony.Engine
