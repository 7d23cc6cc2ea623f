import Polyphony.Proofs.ChannelMixes
import Polyphony.Proofs.EnvelopeLevels
import Polyphony.Proofs.Number.Signs
import Polyphony.Proofs.Playback
import Polyphony.Proofs.Splitting

/-!
# Voices that stay finite

A voice whose cursor and envelope are where a session takes them, and whose
step is finite, gives finite samples for as long as it plays.  Once there is
nothing left for it to play, all of its samples are zeros.
-/

namespace Polyphony.Number

/--
What a mathematical library promises of the ranges of its functions, and all
that is asked of them.
-/
structure Transcendental.Lawful [Transcendental] : Prop where
  sine :
    ∀ {angle : Float32} {exact : ℚ},
      Is angle exact →
      Within 0 (Transcendental.sine angle)
  cosine :
    ∀ {angle : Float32} {exact : ℚ},
      Is angle exact →
      Within 0 (Transcendental.cosine angle)
  exponential :
    ∀ power : Float, NotNegative (Transcendental.exponential power)

end Polyphony.Number

namespace Polyphony

open Number
open Number.FloatingPoint (spec)

/-- A reading without a fault has a sample rate above zero. -/
theorem SynthReading.exists_is_sampleRate
    {reading : SynthReading}
    (noFault : reading.fault? = none) :
    ∃ rate, Is reading.configuration.sampleRate rate ∧ 0 < rate := by
  have inRange : 8000 ≤ reading.sampleRate ∧ reading.sampleRate ≤ 192000 := by
    unfold fault? at noFault
    split at noFault
    · cases noFault
    · rename_i accepted
      simpa using accepted
  have isLeast : Is (8000 : Float) (8000 : ℕ) :=
    Double.is_ofNat_of_le (by decide)
  have isGreatest : Is (192000 : Float) (192000 : ℕ) :=
    Double.is_ofNat_of_le (by decide)
  obtain ⟨exact, isExact, above, below⟩ :=
    exists_is_between isLeast isGreatest inRange.1 inRange.2
  have positive : 0 < exact := lt_of_lt_of_le (by norm_num) above
  have small : |exact| ≤ limit (spec Float32) := by
    rw [abs_of_pos positive]
    exact below.trans
      (le_trans (by norm_num) (two_pow_le_limit (show 18 ≤ 127 by decide)))
  have atLeastOne : 1 ≤ rounded (spec Float32) exact := by
    have one : rounded (spec Float32) 1 = 1 := by
      simpa using (Representable.two_pow 0).rounded_eq
    rw [← one]
    exact rounded_mono (le_trans (by norm_num) above)
  exact ⟨_, isExact.narrow small, lt_of_lt_of_le one_pos atLeastOne⟩

/-- A configuration that was accepted has a sample rate above zero. -/
theorem SynthConfiguration.exists_is_sampleRate
    {settings : Settings}
    {configuration : SynthConfiguration}
    (accepted : SynthConfiguration.ofSettings settings = .ok configuration) :
    ∃ rate, Is configuration.sampleRate rate ∧ 0 < rate := by
  unfold ofSettings at accepted
  split at accepted
  · cases accepted
  · rename_i reading _
    split at accepted
    · cases accepted
    · rename_i noFault
      cases accepted
      exact reading.exists_is_sampleRate noFault

end Polyphony

namespace Polyphony.Engine

open Number
open Sound (Cursor Envelope Interpolation)

namespace Voice

/-! ## What every voice keeps -/

/--
The rates of a voice are usable, its level is in range, and its cursor is
within its recording if that is no longer than a recording can be.
-/
structure Tracked
    (outputRate : Float32)
    (voice : Voice) : Prop where
  outputRate : voice.outputRate = outputRate
  rateRatio : NotNegative voice.rateRatio
  cursor :
    voice.cursor.stop ≤ Cursor.longest →
    voice.cursor.Framed
  envelope : voice.envelope.InRange

theorem Tracked.new (outputRate : Float32) :
    (Voice.new outputRate).Tracked outputRate where
  outputRate := rfl
  rateRatio := Double.notNegative_ofNat 1
  cursor := fun _ => Cursor.framed_idle
  envelope := .new outputRate

theorem Tracked.releasedCursor
    {outputRate : Float32}
    {voice : Voice}
    (tracked : voice.Tracked outputRate) :
    voice.releasedCursor.stop ≤ Cursor.longest →
    voice.releasedCursor.Framed := by
  unfold Voice.releasedCursor
  split
  · exact fun short => (tracked.cursor short).stopLooping
  · exact tracked.cursor

theorem Tracked.nextSample
    {outputRate : Float32}
    {voice : Voice}
    (tracked : voice.Tracked outputRate)
    {step : Float}
    (forward : NotNegative step)
    (pool : Array Int16)
    (method : Interpolation) :
    (voice.nextSample pool method step).2.Tracked outputRate where
  outputRate := tracked.outputRate
  rateRatio := tracked.rateRatio
  cursor := by
    intro short
    have sameStop := voice.cursor.stop_advance step
    have shortBefore : voice.cursor.stop ≤ Cursor.longest := by
      rw [← sameStop]
      exact short
    exact (tracked.cursor shortBefore).advance shortBefore forward
  envelope := tracked.envelope.next

theorem Tracked.settle
    {outputRate : Float32}
    {voice : Voice}
    (tracked : voice.Tracked outputRate) :
    voice.settle.Tracked outputRate := by
  obtain ⟨state, shape⟩ := voice.exists_settle
  rw [shape]
  exact ⟨tracked.outputRate, tracked.rateRatio, tracked.cursor,
    tracked.envelope⟩

/-! ## Finite samples -/

/--
The level is in range, and the position finite and within the recording, whose
loop has a length.
-/
structure Steady (voice : Voice) : Prop where
  short : voice.cursor.stop ≤ Cursor.longest
  framed : voice.cursor.Framed
  apart : voice.cursor.Apart
  located : voice.cursor.finished = false → voice.cursor.Inside
  envelope : voice.envelope.InRange

namespace Steady

theorem nextSample
    {voice : Voice}
    {step : Float}
    {distance : ℚ}
    (steady : voice.Steady)
    (isStep : Is step distance)
    (forward : 0 ≤ distance)
    (pool : Array Int16)
    (method : Interpolation) :
    (voice.nextSample pool method step).2.Steady where
  short := (voice.cursor.stop_advance step).trans_le steady.short
  framed :=
    steady.framed.advance steady.short fun exact isExact =>
      isExact.unique isStep ▸ forward
  apart := steady.apart.advance step
  located := by
    intro unfinished
    have wasPlaying : voice.cursor.finished = false := by
      by_contra finished
      rw [Bool.not_eq_false] at finished
      have rested : voice.cursor.advance step = voice.cursor :=
        if_pos finished
      have stillFinished : (voice.cursor.advance step).finished = true := by
        rw [rested]
        exact finished
      exact absurd (stillFinished.symm.trans unfinished) (by decide)
    have inside := steady.located wasPlaying
    exact inside.advance steady.framed steady.short isStep forward unfinished
      (inside.exists_is_advance steady.framed steady.short steady.apart isStep
        forward)
  envelope := steady.envelope.next

theorem samples
    {voice : Voice}
    {step : Float}
    {distance : ℚ}
    (steady : voice.Steady)
    (isStep : Is step distance)
    (forward : 0 ≤ distance)
    (pool : Array Int16)
    (method : Interpolation)
    (count : Nat) :
    (voice.samples pool method step count).2.Steady :=
  samples_keep pool method step Steady
    (fun before => before.nextSample isStep forward pool method) count steady

theorem settle
    {voice : Voice}
    (steady : voice.Steady) :
    voice.settle.Steady := by
  obtain ⟨state, shape⟩ := voice.exists_settle
  rw [shape]
  exact ⟨steady.short, steady.framed, steady.apart, steady.located,
    steady.envelope⟩

/-- A voice that is done adds nothing: its level is zero, or what it reads. -/
theorem is_zero_of_done
    {voice : Voice}
    (steady : voice.Steady)
    (done : voice.isDone)
    (pool : Array Int16)
    (method : Interpolation)
    (step : Float) :
    Is (voice.nextSample pool method step).1 0 := by
  obtain ⟨level, isLevel, -⟩ := steady.envelope.next.level
  obtain ⟨signal, isSignal⟩ :=
    (Cursor.within_read steady.located pool method).finite
  by_cases finished : voice.cursor.finished
  · have silent : voice.cursor.read pool method = 0 := by
      simp [Cursor.read, finished]
    have isSilent : Is (voice.cursor.read pool method) 0 := by
      rw [silent]
      exact is_zero
    exact isSilent.mul_eq_zero isLevel (zero_mul level)
  · have resting : voice.envelope.stage = .idle := by
      simpa [isDone, Envelope.isActive, finished] using done
    have mute : voice.envelope.next.level = 0 := by
      simp [Envelope.next, resting]
    have isMute : Is voice.envelope.next.level 0 := by
      rw [mute]
      exact is_zero
    exact isSignal.mul_eq_zero isMute (mul_zero signal)

/-- Once a voice is done, all of its samples are zeros. -/
theorem samples_zero
    {voice : Voice}
    {step : Float}
    {distance : ℚ}
    (steady : voice.Steady)
    (isStep : Is step distance)
    (forward : 0 ≤ distance)
    (done : voice.isDone)
    (pool : Array Int16)
    (method : Interpolation)
    (count : Nat) :
    ∀ sample ∈ (voice.samples pool method step count).1, Is sample 0 := by
  induction count generalizing voice with
  | zero =>
      intro sample member
      cases member
  | succ count inductionHypothesis =>
      have others :=
        inductionHypothesis (steady.nextSample isStep forward pool method)
          (isDone_nextSample pool method step done)
      intro sample member
      rcases List.mem_cons.mp member with isFirst | later
      · rw [isFirst]
        exact steady.is_zero_of_done done pool method step
      · exact others sample later

end Steady

/-! ## Sessions -/

variable [Transcendental]

/-- No step leads backward. -/
theorem Tracked.step
    {outputRate : Float32}
    {voice : Voice}
    (tracked : voice.Tracked outputRate)
    (lawful : Transcendental.Lawful)
    (bend : Float32) :
    NotNegative (voice.step bend) :=
  (lawful.exponential _).mul tracked.rateRatio

theorem Tracked.invariant
    (lawful : Transcendental.Lawful)
    {outputRate : Float32}
    {exact : ℚ}
    (isRate : Is outputRate exact)
    (positive : 0 < exact) :
    Voice.Invariant (Tracked outputRate) where
  free := fun tracked =>
    ⟨tracked.outputRate, tracked.rateRatio, fun _ => Cursor.framed_idle,
      tracked.envelope.reset⟩
  start := by
    intro note source zone voice tracked
    have isOutputRate : Is (widen voice.outputRate) exact := by
      rw [tracked.outputRate]
      exact isRate.widen
    exact {
      outputRate := tracked.outputRate
      rateRatio := (Double.notNegative_ofNat _).div isOutputRate positive
      cursor := fun short => Cursor.framed_new _ short
      envelope := tracked.envelope.noteOn zone.envelope
    }
  release := by
    intro voice tracked
    unfold Voice.release
    split
    · exact ⟨tracked.outputRate, tracked.rateRatio, tracked.releasedCursor,
        tracked.envelope.noteOff⟩
    · exact tracked
  forceRelease := by
    intro seconds voice tracked
    unfold Voice.forceRelease
    split
    · exact tracked
    · exact ⟨tracked.outputRate, tracked.rateRatio, tracked.releasedCursor,
        tracked.envelope.forceRelease seconds⟩
  sounded := by
    intro frames mix method voice tracked
    cases held : voice.source? with
    | none => rwa [sounded_of_unsourced held]
    | some source =>
        rw [sounded_of_sourced held]
        exact (samples_keep _ method _ (Tracked outputRate)
          (fun before =>
            before.nextSample (tracked.step lawful mix.bend) _ method)
          frames tracked).settle

end Voice

end Polyphony.Engine
