import Polyphony.Proofs.VoiceInvariant

/-!
# How released sounds end

A release counts its samples down, and nothing makes it longer: a second release
leaves it alone, and one that is forced can only shorten it.  So the time that
is left to a released voice bounds how long it will be heard.
-/

namespace Polyphony.Sound.Envelope

open EnvelopeStage

/--
How many samples a released envelope lasts.  One that has come to rest counts as
one, since its voice sounds until the end of the next block.
-/
def fadeLength (envelope : Envelope) : Nat :=
  if envelope.stage = .idle then 1 else envelope.remaining

/-- A release that is under way has samples to go. -/
def Counting (envelope : Envelope) : Prop :=
  envelope.stage = .release → 1 ≤ envelope.remaining

/-- The key has been released, and the fade lasts for some of these samples. -/
structure FadesWithin
    (samples : Nat)
    (envelope : Envelope) : Prop where
  fading : envelope.stage.isFading
  some : 1 ≤ envelope.fadeLength
  within : envelope.fadeLength ≤ samples

/-! ## Releases begin with samples to go -/

/-- A release is skipped if its time is too short, and else lasts for it. -/
theorem startRelease_eq
    (seconds : Float32)
    (envelope : Envelope) :
    (envelope.startRelease seconds).stage = .idle ∨
      (envelope.startRelease seconds).stage = .release ∧
        (envelope.startRelease seconds).remaining =
          envelope.samplesFor seconds ∧
        1 ≤ envelope.samplesFor seconds := by
  by_cases short : envelope.samplesFor seconds = 0
  · refine .inl ?_
    have sameSamples :
        ({ envelope with stage := .release } : Envelope).samplesFor seconds =
          0 := short
    simp [startRelease, rampTo, sameSamples]
  · have sameSamples :
        ({ envelope with stage := .release } : Envelope).samplesFor seconds =
          envelope.samplesFor seconds := rfl
    refine .inr ?_
    simp [startRelease, rampTo, sameSamples, short, Nat.one_le_iff_ne_zero]

theorem counting_startRelease
    (seconds : Float32)
    (envelope : Envelope) :
    (envelope.startRelease seconds).Counting := by
  intro releasing
  rcases envelope.startRelease_eq seconds with
    resting | ⟨-, sameLength, some⟩
  · rw [resting] at releasing
    cases releasing
  · rw [sameLength]
    exact some

theorem counting_noteOn
    (parameters : EnvelopeParameters)
    (envelope : Envelope) :
    (envelope.noteOn parameters).Counting :=
  fun releasing => absurd releasing (envelope.stage_noteOn parameters)

namespace Counting

theorem noteOff
    {envelope : Envelope}
    (counting : envelope.Counting) :
    envelope.noteOff.Counting := by
  unfold Envelope.noteOff
  split
  · exact counting
  · exact counting
  · exact counting_startRelease _ envelope

theorem forceRelease
    {envelope : Envelope}
    (counting : envelope.Counting)
    (seconds : Float32) :
    (envelope.forceRelease seconds).Counting := by
  unfold Envelope.forceRelease
  split
  · exact counting
  · split
    · exact counting_startRelease _ envelope
    · exact counting
  · exact counting_startRelease _ envelope

end Counting

/-! ## Samples pass -/

/-- A sample takes one from a release, and the last one ends it. -/
theorem next_of_release
    {envelope : Envelope}
    (releasing : envelope.stage = .release)
    (counting : 1 ≤ envelope.remaining) :
    envelope.next.stage = .idle ∧ envelope.remaining = 1 ∨
      envelope.next.stage = .release ∧
        1 ≤ envelope.next.remaining ∧
        envelope.next.remaining + 1 = envelope.remaining := by
  by_cases last : envelope.remaining = 1
  · simp [next, stepRamp, enterNext, releasing, last]
  · have more : envelope.remaining - 1 ≠ 0 := by omega
    have shape :
        envelope.next =
          { envelope with
            level :=
              Number.clamp 0 1 (envelope.level + envelope.step)
            remaining := envelope.remaining - 1 } := by
      simp [next, stepRamp, releasing, more]
    rw [shape]
    exact .inr ⟨releasing, by simp only; omega, by simp only; omega⟩

theorem next_of_idle
    {envelope : Envelope}
    (resting : envelope.stage = .idle) :
    envelope.next.stage = .idle := by
  simp [next, resting]

theorem levels_of_idle
    {envelope : Envelope}
    (resting : envelope.stage = .idle)
    (count : Nat) :
    (envelope.levels count).2.stage = .idle :=
  stage_levels (· = .idle) next_of_idle count resting

theorem Counting.next
    {envelope : Envelope}
    (counting : envelope.Counting) :
    envelope.next.Counting := by
  intro releasing
  by_cases before : envelope.stage = .release
  · rcases next_of_release before (counting before) with
      ⟨resting, -⟩ | ⟨-, some, -⟩
    · rw [resting] at releasing
      cases releasing
    · exact some
  · exact absurd releasing (stage_next_ne_release before)

theorem Counting.levels
    {envelope : Envelope}
    (counting : envelope.Counting)
    (count : Nat) :
    (envelope.levels count).2.Counting := by
  induction count generalizing envelope with
  | zero =>
      exact counting
  | succ count inductionHypothesis =>
      exact inductionHypothesis counting.next

theorem Counting.fadesWithin
    {envelope : Envelope}
    (counting : envelope.Counting)
    (fading : envelope.stage.isFading) :
    envelope.FadesWithin envelope.fadeLength where
  fading := fading
  some := by
    unfold fadeLength
    split
    · exact Nat.le_refl 1
    · rename_i active
      cases stage : envelope.stage <;> simp_all [isFading, Counting]
  within := Nat.le_refl _

namespace FadesWithin

variable {samples : Nat} {envelope : Envelope}

theorem mono
    {more : Nat}
    (fades : envelope.FadesWithin samples)
    (longer : samples ≤ more) :
    envelope.FadesWithin more :=
  { fades with within := Nat.le_trans fades.within longer }

/-- No fade ends within no samples. -/
theorem pos
    (fades : envelope.FadesWithin samples) :
    1 ≤ samples :=
  Nat.le_trans fades.some fades.within

/-- A fade rests already, or counts the samples of a release. -/
theorem cases
    (fades : envelope.FadesWithin samples) :
    envelope.stage = .idle ∨
      envelope.stage = .release ∧
        1 ≤ envelope.remaining ∧
        envelope.remaining ≤ samples := by
  obtain ⟨fading, some, within⟩ := fades
  cases stage : envelope.stage <;> simp_all [isFading, fadeLength]

theorem of_release
    (releasing : envelope.stage = .release)
    (some : 1 ≤ envelope.remaining)
    (within : envelope.remaining ≤ samples) :
    envelope.FadesWithin samples := by
  have length : envelope.fadeLength = envelope.remaining := by
    simp [fadeLength, releasing]
  exact {
    fading := by rw [releasing]; rfl
    some := by rw [length]; exact some
    within := by rw [length]; exact within
  }

theorem of_idle
    (resting : envelope.stage = .idle)
    (some : 1 ≤ samples) :
    envelope.FadesWithin samples := by
  have length : envelope.fadeLength = 1 := by
    simp [fadeLength, resting]
  exact {
    fading := by rw [resting]; rfl
    some := Nat.le_of_eq length.symm
    within := by rw [length]; exact some
  }

theorem next
    (fades : envelope.FadesWithin samples) :
    envelope.next.stage = .idle ∨
      envelope.next.FadesWithin (samples - 1) := by
  rcases fades.cases with resting | ⟨releasing, some, within⟩
  · exact .inl (next_of_idle resting)
  · rcases next_of_release releasing some with
      ⟨resting, -⟩ | ⟨stillReleasing, stillSome, fewer⟩
    · exact .inl resting
    · exact .inr (.of_release stillReleasing stillSome (by omega))

/-- The time left to a fade shrinks by every sample that passes. -/
theorem levels
    (fades : envelope.FadesWithin samples)
    (count : Nat) :
    (envelope.levels count).2.stage = .idle ∨
      (envelope.levels count).2.FadesWithin (samples - count) := by
  induction count generalizing envelope samples with
  | zero =>
      exact .inr fades
  | succ count inductionHypothesis =>
      rcases fades.next with resting | others
      · exact .inl (levels_of_idle resting count)
      · have later := inductionHypothesis others
        rw [Nat.sub_sub, Nat.add_comm 1 count] at later
        exact later

/-- A release that is forced is no longer than the one that it cuts short. -/
theorem forceRelease
    (fades : envelope.FadesWithin samples)
    (seconds : Float32) :
    (envelope.forceRelease seconds).FadesWithin samples := by
  rcases fades.cases with resting | ⟨releasing, -, within⟩
  · simpa [Envelope.forceRelease, resting] using fades
  · simp only [Envelope.forceRelease, releasing]
    split
    · rename_i shorter
      rcases envelope.startRelease_eq seconds with
        resting | ⟨stillReleasing, sameLength, some⟩
      · exact .of_idle resting fades.pos
      · refine .of_release stillReleasing (by omega) (by omega)
    · exact fades

end FadesWithin

end Polyphony.Sound.Envelope

namespace Polyphony.Engine

open Instrument (Zone)
open Number (Transcendental)
open Sound (Bus Cursor Envelope Interpolation)

/-- What a voice was started for: a note, and the bank that it reads. -/
structure Origin where
  note : Note
  source? : Option BankReference
  deriving DecidableEq

namespace Voice

/-- What the voice was started for. -/
def origin (voice : Voice) : Origin :=
  ⟨⟨voice.channel, voice.key, voice.velocity, voice.serial⟩, voice.source?⟩

/-- How long the voice will be heard once its key has been released. -/
def fadeLength (voice : Voice) : Nat :=
  voice.envelope.fadeLength

/-- The voice is being released, and ends within some frames. -/
structure FadesWithin
    (frames : Nat)
    (voice : Voice) : Prop where
  releasing : voice.state = .releasing
  envelope : voice.envelope.FadesWithin frames

@[simp] theorem origin_release (voice : Voice) :
    voice.release.origin = voice.origin := by
  unfold release
  split <;> rfl

@[simp] theorem origin_forceRelease
    (seconds : Float32)
    (voice : Voice) :
    (voice.forceRelease seconds).origin = voice.origin := by
  unfold forceRelease
  split <;> rfl

@[simp] theorem origin_settle (voice : Voice) :
    voice.settle.origin = voice.origin := by
  unfold settle
  split <;> rfl

@[simp] theorem envelope_settle (voice : Voice) :
    voice.settle.envelope = voice.envelope := by
  unfold settle
  split <;> rfl

@[simp] theorem isFree_release (voice : Voice) :
    voice.release.isFree = voice.isFree := by
  cases state : voice.state <;> simp [release, isHeld, isFree, state]

@[simp] theorem isFree_forceRelease
    (seconds : Float32)
    (voice : Voice) :
    (voice.forceRelease seconds).isFree = voice.isFree := by
  by_cases free : voice.isFree
  · simp [forceRelease, free]
  · simp only [forceRelease, free]
    simp [isFree]

theorem FadesWithin.isHeld
    {frames : Nat}
    {voice : Voice}
    (fades : voice.FadesWithin frames) :
    voice.isHeld = false := by
  rw [isHeld_eq, fades.releasing]
  rfl

theorem FadesWithin.release
    {frames : Nat}
    {voice : Voice}
    (fades : voice.FadesWithin frames) :
    voice.release.FadesWithin frames := by
  rw [release_of_not_held fades.isHeld]
  exact fades

theorem FadesWithin.forceRelease
    {frames : Nat}
    {voice : Voice}
    (fades : voice.FadesWithin frames)
    (seconds : Float32) :
    (voice.forceRelease seconds).FadesWithin frames := by
  have notFree : voice.isFree = false := by
    simp [isFree, fades.releasing]
  simp only [Voice.forceRelease, notFree]
  exact ⟨rfl, fades.envelope.forceRelease seconds⟩

variable [Transcendental]

@[simp] theorem origin_start
    (note : Note)
    (source : BankReference)
    (zone : Zone)
    (voice : Voice) :
    (voice.start note source zone).origin = ⟨note, some source⟩ := by
  rfl

/-- A voice without a bank does not change while sound is made. -/
theorem sounded_of_unsourced
    {voice : Voice}
    (unsourced : voice.source? = none)
    (frames : Nat)
    (mix : ChannelMix)
    (method : Interpolation) :
    voice.sounded frames mix method = voice := by
  simp [sounded, render, unsourced]

theorem envelope_sounded
    {voice : Voice}
    {source : BankReference}
    (held : voice.source? = some source)
    (frames : Nat)
    (mix : ChannelMix)
    (method : Interpolation) :
    (voice.sounded frames mix method).envelope =
      (voice.envelope.levels frames).2 := by
  obtain ⟨cursor, shape⟩ := sounded_eq held frames mix method
  simp [shape]

@[simp] theorem origin_sounded
    (frames : Nat)
    (mix : ChannelMix)
    (method : Interpolation)
    (voice : Voice) :
    (voice.sounded frames mix method).origin = voice.origin := by
  cases held : voice.source? with
  | none =>
      rw [sounded_of_unsourced held]
  | some source =>
      obtain ⟨cursor, shape⟩ := sounded_eq held frames mix method
      rw [shape, origin_settle]
      simp [origin, held]

/-- A voice that outlasts a block was sounding before, and has gone on. -/
theorem blockEnd_of_sounding
    {frames : Nat}
    {channels : List Channel}
    {method : Interpolation}
    {voice : Voice}
    (sounding : ¬ (voice.blockEnd frames channels method).2.isFree) :
    ¬ voice.isFree ∧
      (voice.blockEnd frames channels method).2 =
        voice.sounded frames (VoicePool.mixFor channels voice) method := by
  unfold blockEnd at sounding ⊢
  dsimp only at sounding ⊢
  split at sounding
  · contradiction
  · rename_i notFree
    refine ⟨notFree, ?_⟩
    split at sounding
    · exact absurd rfl sounding
    · rename_i notDone
      simp [notFree, notDone]

/-- A voice that fades and outlasts a block has so much less time left. -/
theorem FadesWithin.blockEnd
    {count : Nat}
    {voice : Voice}
    (fades : voice.FadesWithin count)
    (wellFormed : voice.WellFormed)
    {frames : Nat}
    {channels : List Channel}
    {method : Interpolation}
    (sounding : ¬ (voice.blockEnd frames channels method).2.isFree) :
    (voice.blockEnd frames channels method).2.FadesWithin
      (count - frames) := by
  have outlasts := wellFormed.outlasts frames channels method
  obtain ⟨notFree, hasSounded⟩ := blockEnd_of_sounding sounding
  obtain ⟨source, held⟩ := wellFormed.exists_source notFree
  have sameEnvelope :
      (voice.blockEnd frames channels method).2.envelope =
        (voice.envelope.levels frames).2 := by
    rw [hasSounded, envelope_sounded held]
  generalize voice.blockEnd frames channels method = outcome
    at outlasts sounding sameEnvelope ⊢
  cases outlasts with
  | rested free => exact absurd free notFree
  | ended _ free _ => exact absurd free sounding
  | continued _ holding state lastWellFormed going =>
      refine ⟨?_, ?_⟩
      · rcases state with unchanged | ⟨attacking, -⟩
        · exact unchanged.trans fades.releasing
        · rw [fades.releasing] at attacking
          cases attacking
      · have active := of_decide_eq_true going.active
        simp only at sameEnvelope
        rw [sameEnvelope] at active ⊢
        exact (fades.envelope.levels frames).resolve_left active

/-- Every release of every voice has samples to go. -/
theorem counting_invariant :
    Voice.Invariant fun voice => voice.envelope.Counting where
  free := by
    intro voice _ releasing
    cases releasing
  start := by
    intro note source zone voice _
    exact Envelope.counting_noteOn zone.envelope voice.envelope
  release := by
    intro voice counting
    unfold Voice.release
    split
    · exact counting.noteOff
    · exact counting
  forceRelease := by
    intro seconds voice counting
    unfold Voice.forceRelease
    split
    · exact counting
    · exact counting.forceRelease seconds
  sounded := by
    intro frames mix method voice counting
    cases held : voice.source? with
    | none =>
        rwa [sounded_of_unsourced held]
    | some source =>
        rw [envelope_sounded held]
        exact counting.levels frames

end Voice

end Polyphony.Engine
