import Mathlib.Data.List.Forall2
import Polyphony.Proofs.Number.Signs
import Polyphony.Proofs.Number.Zeros

/-!
# Buses in two parts

To add a signal to a bus is to add its first part to the first frames and its
second part to the others.  A signal of zeros changes no number of a bus, and
buses of the same numbers become the same output.
-/

namespace Polyphony.Sound

open Number

/-! ## One side -/

/-- Two lists have the same numbers, in order. -/
abbrev SameNumbers : List Float32 → List Float32 → Prop :=
  List.Forall₂ SameNumber

namespace SameNumbers

variable {first second third : List Float32}

theorem refl (values : List Float32) :
    SameNumbers values values :=
  List.forall₂_same.mpr fun value _ => .refl value

theorem trans
    (earlier : SameNumbers first second)
    (later : SameNumbers second third) :
    SameNumbers first third := by
  induction earlier generalizing third with
  | nil => exact later
  | cons same _ inductionHypothesis =>
      cases later with
      | cons sameNext others =>
          exact .cons (same.trans sameNext) (inductionHypothesis others)

theorem addScaled
    (same : SameNumbers first second)
    (signal : List Float32)
    (gain : Float32) :
    SameNumbers (addScaled first signal gain) (addScaled second signal gain) := by
  induction same generalizing signal with
  | nil => exact .nil
  | cons sameValue _ inductionHypothesis =>
      cases signal with
      | nil => exact .nil
      | cons sample rest =>
          exact .cons (sameValue.add (sample * gain)) (inductionHypothesis rest)

/-- Zeros of any sign, however loud, are not heard. -/
theorem addScaled_zeros
    {signal : List Float32}
    {gain : Float32}
    {exact : ℚ}
    (zeros : ∀ sample ∈ signal, Is sample 0)
    (isGain : Is gain exact)
    (values : List Float32)
    (sameLength : values.length = signal.length) :
    SameNumbers (Sound.addScaled values signal gain) values := by
  induction signal generalizing values with
  | nil =>
      rw [List.eq_nil_of_length_eq_zero sameLength]
      exact .nil
  | cons sample rest inductionHypothesis =>
      cases values with
      | nil => cases sameLength
      | cons value others =>
          have isZero : Is (sample * gain) 0 :=
            (zeros sample List.mem_cons_self).mul_eq_zero isGain
              (zero_mul exact)
          have otherZeros : ∀ sample ∈ rest, Is sample 0 :=
            fun other member => zeros other (List.mem_cons_of_mem sample member)
          exact .cons (.add_zero isZero value)
            (inductionHypothesis otherZeros others (Nat.succ.inj sameLength))

end SameNumbers

/-! ## Both sides -/

namespace Bus

/-- One bus after another. -/
def append (first second : Bus) : Bus :=
  ⟨first.left ++ second.left, first.right ++ second.right⟩

/-- Both sides have a number of frames. -/
structure Lasts
    (frames : Nat)
    (bus : Bus) : Prop where
  left : bus.left.length = frames
  right : bus.right.length = frames

/-- Both sides of two buses have the same numbers. -/
structure Same (first second : Bus) : Prop where
  left : SameNumbers first.left second.left
  right : SameNumbers first.right second.right

theorem lasts_silent (frames : Nat) :
    (silent frames).Lasts frames :=
  ⟨List.length_replicate, List.length_replicate⟩

theorem silent_add (first second : Nat) :
    silent (first + second) = (silent first).append (silent second) := by
  unfold silent append
  rw [List.replicate_add]

theorem Lasts.add
    {frames : Nat}
    {bus : Bus}
    {signal : List Float32}
    (lasts : bus.Lasts frames)
    (sameLength : signal.length = frames)
    (gains : Stereo Float32) :
    (bus.add signal gains).Lasts frames := by
  constructor
  · simp [Bus.add, addScaled, lasts.left, sameLength]
  · simp [Bus.add, addScaled, lasts.right, sameLength]

/-- Signals in two parts are added part by part. -/
theorem add_append
    {frames : Nat}
    {first : Bus}
    {early : List Float32}
    (lasts : first.Lasts frames)
    (sameLength : early.length = frames)
    (second : Bus)
    (late : List Float32)
    (gains : Stereo Float32) :
    (first.append second).add (early ++ late) gains =
      (first.add early gains).append (second.add late gains) := by
  unfold Bus.add append addScaled
  rw [List.zipWith_append (lasts.left.trans sameLength.symm),
    List.zipWith_append (lasts.right.trans sameLength.symm)]

namespace Same

variable {first second third other : Bus}

theorem refl (bus : Bus) :
    bus.Same bus :=
  ⟨.refl _, .refl _⟩

theorem trans
    (earlier : first.Same second)
    (later : second.Same third) :
    first.Same third :=
  ⟨earlier.left.trans later.left, earlier.right.trans later.right⟩

theorem append
    (earlier : first.Same second)
    (later : third.Same other) :
    (first.append third).Same (second.append other) :=
  ⟨List.rel_append earlier.left later.left,
    List.rel_append earlier.right later.right⟩

theorem add
    (same : first.Same second)
    (signal : List Float32)
    (gains : Stereo Float32) :
    (first.add signal gains).Same (second.add signal gains) :=
  ⟨same.left.addScaled signal gains.left,
    same.right.addScaled signal gains.right⟩

theorem add_zeros
    {frames : Nat}
    {bus : Bus}
    {signal : List Float32}
    {gains : Stereo Float32}
    (lasts : bus.Lasts frames)
    (sameLength : signal.length = frames)
    (zeros : ∀ sample ∈ signal, Is sample 0)
    (leftFinite : ∃ exact, Is gains.left exact)
    (rightFinite : ∃ exact, Is gains.right exact) :
    (bus.add signal gains).Same bus := by
  obtain ⟨left, isLeft⟩ := leftFinite
  obtain ⟨right, isRight⟩ := rightFinite
  exact ⟨
    .addScaled_zeros zeros isLeft _ (lasts.left.trans sameLength.symm),
    .addScaled_zeros zeros isRight _ (lasts.right.trans sameLength.symm)⟩

end Same

/-! ## Output -/

/-- The output samples of a bus, with a master gain. -/
def output
    (gain : Float32)
    (bus : Bus) :
    List (Stereo Int16) :=
  bus.frames.map (·.map fun value => toSample (value * gain))

theorem length_output
    {count : Nat}
    {bus : Bus}
    (lasts : bus.Lasts count)
    (gain : Float32) :
    (bus.output gain).length = count := by
  simp [output, frames, lasts.left, lasts.right]

theorem output_append
    {count : Nat}
    {first : Bus}
    (lasts : first.Lasts count)
    (gain : Float32)
    (second : Bus) :
    (first.append second).output gain =
      first.output gain ++ second.output gain := by
  unfold output frames append
  rw [List.zipWith_append (lasts.left.trans lasts.right.symm), List.map_append]

/-- Buses of the same numbers sound the same. -/
theorem Same.output_eq
    {first second : Bus}
    (same : first.Same second)
    (gain : Float32) :
    first.output gain = second.output gain := by
  obtain ⟨firstLeft, firstRight⟩ := first
  obtain ⟨secondLeft, secondRight⟩ := second
  obtain ⟨left, right⟩ := same
  dsimp only at left right
  unfold output frames
  dsimp only
  induction left generalizing firstRight secondRight with
  | nil => rfl
  | cons sameLeft _ inductionHypothesis =>
      cases right with
      | nil => rfl
      | cons sameRight others =>
          have sameFrame := (sameLeft.mul gain).toSample_eq
          have sameOther := (sameRight.mul gain).toSample_eq
          simp only [List.zipWith_cons_cons, List.map_cons, Stereo.map]
          rw [sameFrame, sameOther]
          exact congrArg _ (inductionHypothesis _ _ others)

end Bus

end Polyphony.Sound
