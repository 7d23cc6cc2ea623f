import Polyphony.Proofs.Number.Operands
import Polyphony.Sound.Cursor

/-!
# Positions in a recording

A cursor that moves forward from a finite position stays within the range of
indices for as long as it plays.  What is read there is finite, whatever the way
to estimate it.

Double precision does not tell all positions apart.  A loop whose two ends have
one position has no length, and a jump in it leads to what is not a number.  In
all other recordings a finite step leads from a finite position to another.
-/

namespace Polyphony.Sound

open Number
open Number.FloatingPoint (spec unpack)

namespace Cursor

/-- The most samples that there can be: they take up 2 ^ 63 bytes. -/
def longest : Nat := 2 ^ 62

/-! ## Positions of samples -/

/-- The position of a sample, which is the nearest number to its index. -/
def place (index : Nat) : ℚ :=
  rounded (spec Float) index

theorem place_nonneg (index : Nat) : 0 ≤ place index :=
  rounded_nonneg (Nat.cast_nonneg index)

theorem place_mono
    {first second : Nat}
    (ordered : first ≤ second) :
    place first ≤ place second :=
  rounded_mono (by exact_mod_cast ordered)

theorem place_le
    {index : Nat}
    (small : index ≤ longest) :
    place index ≤ 2 ^ 62 := by
  rw [← (Representable.two_pow 62).rounded_eq]
  exact rounded_mono (by exact_mod_cast small)

theorem is_place
    {index : Nat}
    (small : index ≤ longest) :
    Is (Float.ofNat index) (place index) :=
  Double.is_ofNat (Double.le_limit_of_le (by decide) small)

/-! ## One step of a cursor -/

/-- What a step makes of a cursor. -/
inductive Advanced
    (step : Float)
    (cursor : Cursor Float) :
    Cursor Float → Prop where
  | rested
      (finished : cursor.finished = true) :
      Advanced step cursor cursor
  | jumped
      (unfinished : cursor.finished = false)
      (looping : cursor.looping = true)
      (reached : Float.ofNat cursor.loopStop ≤ cursor.position + step) :
      Advanced step cursor
        { cursor with
          position :=
            Float.ofNat cursor.loopStart +
              remainder
                (cursor.position + step - Float.ofNat cursor.loopStart)
                (Float.ofNat cursor.loopStop - Float.ofNat cursor.loopStart) }
  | circled
      (unfinished : cursor.finished = false)
      (looping : cursor.looping = true)
      (before : ¬ Float.ofNat cursor.loopStop ≤ cursor.position + step) :
      Advanced step cursor { cursor with position := cursor.position + step }
  | ran
      (unfinished : cursor.finished = false)
      (straight : cursor.looping = false) :
      Advanced step cursor
        { cursor with
          position := cursor.position + step
          finished :=
            decide (Float.ofNat cursor.stop ≤ cursor.position + step) }

theorem advanced
    (step : Float)
    (cursor : Cursor Float) :
    Advanced step cursor (cursor.advance step) := by
  unfold advance
  split
  · rename_i finished
    exact .rested finished
  · rename_i unfinished
    rw [Bool.not_eq_true] at unfinished
    dsimp only
    split
    · rename_i looping
      split
      · rename_i reached
        exact .jumped unfinished looping (of_decide_eq_true reached)
      · rename_i before
        exact .circled unfinished looping fun reached =>
          before (decide_eq_true reached)
    · rename_i straight
      exact .ran unfinished (Bool.not_eq_true _ ▸ straight)

/-- A step changes no bounds. -/
theorem stop_advance
    (step : Float)
    (cursor : Cursor Float) :
    (cursor.advance step).stop = cursor.stop := by
  have course := cursor.advanced step
  generalize cursor.advance step = after at course
  cases course <;> rfl

/-- A finite position comes by a finite step from a finite position. -/
theorem exists_is_of_advance
    {step : Float}
    {cursor : Cursor Float}
    {exact : ℚ}
    (unfinished : cursor.finished = false)
    (isPosition : Is (cursor.advance step).position exact) :
    (∃ before, Is cursor.position before) ∧ ∃ distance, Is step distance := by
  have course := cursor.advanced step
  generalize cursor.advance step = after at course isPosition
  cases course with
  | rested finished =>
      rw [finished] at unfinished
      cases unfinished
  | jumped _ looping reached =>
      obtain ⟨-, rest, isRest⟩ := isPosition.operands_of_add
      obtain ⟨⟨past, isPast⟩, -⟩ := isRest.operands_of_remainder
      obtain ⟨⟨moved, isMoved⟩, -⟩ := isPast.operands_of_sub
      exact isMoved.operands_of_add
  | circled _ looping before => exact isPosition.operands_of_add
  | ran _ straight => exact isPosition.operands_of_add

/-- A jump in a loop that has a length is to a finite position in it or behind it. -/
theorem exists_is_jumped
    {loopStart loopStop moved : Float}
    {first last exact : ℚ}
    (isStart : Is loopStart first)
    (isStop : Is loopStop last)
    (isMoved : Is moved exact)
    (nonneg : 0 ≤ first)
    (apart : first < last)
    (small : last ≤ 2 ^ 62)
    (reached : last ≤ exact) :
    ∃ position,
      Is (loopStart + remainder (moved - loopStart) (loopStop - loopStart))
        position ∧
        first ≤ position ∧ position ≤ 2 ^ 63 := by
  have lengthSmall : |last - first| ≤ 2 ^ 62 :=
    abs_le.mpr ⟨by linarith, by linarith⟩
  have isLength :=
    isStop.sub isStart
      (lengthSmall.trans (Double.two_pow_le_limit (by decide)))
  have lengthPos :=
    (Denotes.representable isStart).rounded_sub_pos
      (Denotes.representable isStop) apart
  have isPast :=
    isMoved.sub_within isStart (Denotes.representable isMoved)
      (lt_of_abs_lt isMoved.abs_lt_overflow)
      (abs_le.mpr ⟨by linarith, by linarith⟩)
  obtain ⟨-, rest, -, restNonneg, restSmall, isRest⟩ :=
    isPast.remainder isLength (rounded_nonneg (by linarith)) lengthPos
  have lengthRounded : rounded (spec Float) (last - first) ≤ 2 ^ 62 :=
    (abs_le.mp ((Representable.two_pow 62).abs_rounded_le lengthSmall)).2
  have sumSmall : |first + rest| ≤ 2 ^ 63 :=
    abs_le.mpr ⟨by linarith, by linarith⟩
  have fromStart : first ≤ rounded (spec Float) (first + rest) :=
    (Denotes.representable isStart).rounded_eq.symm.trans_le
      (rounded_mono (le_add_of_nonneg_right restNonneg))
  exact ⟨_,
    isStart.add isRest (sumSmall.trans (Double.two_pow_le_limit (by decide))),
    fromStart,
    (abs_le.mp ((Representable.two_pow 63).abs_rounded_le sumSmall)).2⟩

/-! ## Cursors within their recordings -/

/-- A finite position within the range of indices. -/
def Inside (cursor : Cursor Float) : Prop :=
  ∃ exact, Is cursor.position exact ∧ 0 ≤ exact ∧ exact ≤ 2 ^ 63

/-- A loop has samples, and a finite position is within the range of indices. -/
structure Framed (cursor : Cursor Float) : Prop where
  loop :
    cursor.looping = true →
    cursor.loopStart < cursor.loopStop ∧ cursor.loopStop ≤ cursor.stop
  inside :
    cursor.finished = false →
    (∃ exact, Is cursor.position exact) →
    cursor.Inside

/-- The two ends of a loop are different positions. -/
def Apart (cursor : Cursor Float) : Prop :=
  cursor.looping = true →
  Float.ofNat cursor.loopStart < Float.ofNat cursor.loopStop

instance (cursor : Cursor Float) : Decidable cursor.Apart :=
  inferInstanceAs (Decidable (cursor.looping = true → _))

theorem framed_of_finished
    {cursor : Cursor Float}
    (finished : cursor.finished = true)
    (straight : cursor.looping = false) :
    cursor.Framed where
  loop := fun looping => absurd (straight.symm.trans looping) Bool.false_ne_true
  inside := fun unfinished =>
    absurd (unfinished.symm.trans finished) Bool.false_ne_true

theorem Framed.isLoopStart
    {cursor : Cursor Float}
    (framed : cursor.Framed)
    (short : cursor.stop ≤ longest)
    (looping : cursor.looping = true) :
    Is (Float.ofNat cursor.loopStart) (place cursor.loopStart) :=
  is_place ((framed.loop looping).1.le.trans
    ((framed.loop looping).2.trans short))

theorem Framed.isLoopStop
    {cursor : Cursor Float}
    (framed : cursor.Framed)
    (short : cursor.stop ≤ longest)
    (looping : cursor.looping = true) :
    Is (Float.ofNat cursor.loopStop) (place cursor.loopStop) :=
  is_place ((framed.loop looping).2.trans short)

/-- A forward step to a finite position stays within the range of indices. -/
theorem Inside.advance
    {step : Float}
    {cursor : Cursor Float}
    {distance : ℚ}
    (inside : cursor.Inside)
    (framed : cursor.Framed)
    (short : cursor.stop ≤ longest)
    (isStep : Is step distance)
    (forward : 0 ≤ distance)
    (unfinished : (cursor.advance step).finished = false)
    (finite : ∃ exact, Is (cursor.advance step).position exact) :
    (cursor.advance step).Inside := by
  obtain ⟨exact, isPosition, nonneg, atMost⟩ := inside
  have isMoved := Double.is_add isPosition isStep nonneg atMost forward
  have movedNonneg : 0 ≤ rounded (spec Float) (exact + distance) :=
    rounded_nonneg (add_nonneg nonneg forward)
  have withinRange {index : Nat} (small : index ≤ longest) :
      place index ≤ 2 ^ 63 :=
    (place_le small).trans (by norm_num)
  have course := cursor.advanced step
  generalize cursor.advance step = after at course unfinished finite ⊢
  cases course with
  | rested finished => exact ⟨exact, isPosition, nonneg, atMost⟩
  | jumped _ looping reached =>
      have isStart := framed.isLoopStart short looping
      have isStop := framed.isLoopStop short looping
      have small := (framed.loop looping).2.trans short
      -- A loop that has no length would have left the position no number.
      have apart : place cursor.loopStart < place cursor.loopStop := by
        obtain ⟨jumped, isJumped⟩ := finite
        obtain ⟨-, rest, isRest⟩ := isJumped.operands_of_add
        refine lt_of_le_of_ne (place_mono (framed.loop looping).1.le) ?_
        intro same
        have isLength :=
          isStop.sub_within isStart (Denotes.representable isStop)
            (lt_of_abs_lt isStop.abs_lt_overflow)
            (by rw [same, sub_self, abs_zero]; exact place_nonneg _)
        rw [same, sub_self, rounded_zero] at isLength
        exact isRest.operands_of_remainder.2 isLength
      obtain ⟨position, isJumped, above, below⟩ :=
        exists_is_jumped isStart isStop isMoved (place_nonneg _) apart
          (place_le small) ((isStop.le_iff isMoved).mp reached)
      exact ⟨position, isJumped, (place_nonneg _).trans above, below⟩
  | circled _ looping before =>
      have isStop := framed.isLoopStop short looping
      rw [isStop.le_iff isMoved, not_le] at before
      exact ⟨_, isMoved, movedNonneg,
        before.le.trans (withinRange ((framed.loop looping).2.trans short))⟩
  | ran _ straight =>
      have before := of_decide_eq_false unfinished
      rw [(is_place short).le_iff isMoved, not_le] at before
      exact ⟨_, isMoved, movedNonneg, before.le.trans (withinRange short)⟩

/-- A cursor stays framed as long as it never moves backward. -/
theorem Framed.advance
    {step : Float}
    {cursor : Cursor Float}
    (framed : cursor.Framed)
    (short : cursor.stop ≤ longest)
    (forward : ∀ distance, Is step distance → 0 ≤ distance) :
    (cursor.advance step).Framed := by
  constructor
  · have course := cursor.advanced step
    generalize cursor.advance step = after at course
    cases course <;> exact framed.loop
  · intro unfinished finite
    obtain ⟨exact, isExact⟩ := finite
    by_cases rested : cursor.finished = true
    · rw [Cursor.advance, if_pos rested] at unfinished
      rw [rested] at unfinished
      cases unfinished
    · rw [Bool.not_eq_true] at rested
      obtain ⟨before, distance, isStep⟩ :=
        exists_is_of_advance rested isExact
      exact (framed.inside rested before).advance framed short isStep
        (forward distance isStep) unfinished ⟨exact, isExact⟩

/-- The ends of a loop stay apart, as a step does not change them. -/
theorem Apart.advance
    {cursor : Cursor Float}
    (apart : cursor.Apart)
    (step : Float) :
    (cursor.advance step).Apart := by
  have course := cursor.advanced step
  generalize cursor.advance step = after at course
  cases course <;> exact apart

/-- Unless its loop has no length, a cursor keeps to finite positions. -/
theorem Inside.exists_is_advance
    {step : Float}
    {cursor : Cursor Float}
    {distance : ℚ}
    (inside : cursor.Inside)
    (framed : cursor.Framed)
    (short : cursor.stop ≤ longest)
    (apart : cursor.Apart)
    (isStep : Is step distance)
    (forward : 0 ≤ distance) :
    ∃ exact, Is (cursor.advance step).position exact := by
  obtain ⟨exact, isPosition, nonneg, atMost⟩ := inside
  have isMoved := Double.is_add isPosition isStep nonneg atMost forward
  have course := cursor.advanced step
  generalize cursor.advance step = after at course ⊢
  cases course with
  | rested finished => exact ⟨exact, isPosition⟩
  | jumped _ looping reached =>
      have isStart := framed.isLoopStart short looping
      have isStop := framed.isLoopStop short looping
      obtain ⟨position, isJumped, -⟩ :=
        exists_is_jumped isStart isStop isMoved (place_nonneg _)
          ((isStart.lt_iff isStop).mp (apart looping))
          (place_le ((framed.loop looping).2.trans short))
          ((isStop.le_iff isMoved).mp reached)
      exact ⟨position, isJumped⟩
  | circled _ looping before => exact ⟨_, isMoved⟩
  | ran _ straight => exact ⟨_, isMoved⟩

/-- The loop that a new cursor follows has samples and stays within the span. -/
theorem loop_new
    {start stop : Nat}
    {loop? : Option (Nat × Nat)}
    (looping : (new start stop loop? : Cursor Float).looping = true) :
    start ≤ (new start stop loop? : Cursor Float).loopStart ∧
      (new start stop loop? : Cursor Float).loopStart <
        (new start stop loop? : Cursor Float).loopStop ∧
      (new start stop loop? : Cursor Float).loopStop ≤ stop := by
  cases loop? with
  | none => exact absurd looping Bool.false_ne_true
  | some loop =>
      have fitting : fits start stop loop = true := looping
      have kept : (some loop).filter (fits start stop) = some loop := by
        simp [fitting]
      simp only [fits, Bool.and_eq_true, decide_eq_true_eq] at fitting
      simp only [new, kept, Option.getD_some]
      exact ⟨fitting.1.2, fitting.1.1, fitting.2⟩

/-- A cursor at the start of a recording is within it. -/
theorem framed_new
    {start stop : Nat}
    (loop? : Option (Nat × Nat))
    (short : stop ≤ longest) :
    (new start stop loop? : Cursor Float).Framed where
  loop := fun looping => (loop_new looping).2
  inside := by
    intro unfinished _
    have ordered : start < stop := not_le.mp (of_decide_eq_false unfinished)
    have startShort := ordered.le.trans short
    exact ⟨place start, is_place startShort, place_nonneg start,
      (place_le startShort).trans (by norm_num)⟩

theorem framed_idle : (idle : Cursor Float).Framed :=
  framed_of_finished rfl rfl

theorem Framed.stopLooping
    {cursor : Cursor Float}
    (framed : cursor.Framed) :
    cursor.stopLooping.Framed where
  loop := fun looping => absurd looping Bool.false_ne_true
  inside := framed.inside

/-! ## Reading -/

/-- A 16-bit sample is a number as it is. -/
theorem is_ofInt (sample : Int16) :
    Is (Float32.ofInt sample.toInt) sample.toInt := by
  have above := sample.le_toInt
  have below := sample.toInt_lt
  generalize sample.toInt = whole at above below ⊢
  cases whole with
  | ofNat magnitude =>
      have small : magnitude < 2 ^ 15 := Int.ofNat_lt.mp below
      exact Single.is_ofNat_of_le (by omega)
  | negSucc magnitude =>
      have isMagnitude : Is (Float32.ofNat (magnitude + 1)) (magnitude + 1 : ℕ) :=
        Single.is_ofNat_of_le (by omega)
      rw [Int.cast_negSucc]
      exact isMagnitude.neg

theorem within_fetch
    (cursor : Cursor Float)
    (pool : Array Int16)
    (index : Nat) :
    Within 0 (cursor.fetch pool index) := by
  unfold fetch
  dsimp only
  split
  · exact inUnit_zero.within
  · split
    · rename_i sample _
      have isScale : Is (32768 : Float32) (2 ^ 15) := by
        have isExact := is_of_unpack
          (show unpack (32768 : Float32) =
            .finite .positive (2 ^ 23) (-8) (by decide) from rfl)
        norm_num at isExact ⊢
        exact isExact
      have scale : (0 : ℚ) < 2 ^ 15 := by positivity
      have small : |(sample.toInt / 2 ^ 15 : ℚ)| ≤ 2 ^ 0 := by
        have magnitude : |sample.toInt| ≤ 2 ^ 15 :=
          abs_le.mpr ⟨sample.le_toInt, sample.toInt_lt.le⟩
        rw [abs_div, abs_of_pos scale, pow_zero, div_le_one scale]
        exact_mod_cast magnitude
      exact ⟨_,
        (is_ofInt sample).div isScale scale.ne'
          (small.trans (two_pow_le_limit (by decide))),
        (Representable.two_pow 0).abs_rounded_le small⟩
    · exact inUnit_zero.within

theorem within_lineThrough
    {first second part : Float32}
    (isFirst : Within 0 first)
    (isSecond : Within 0 second)
    (isPart : Within 0 part) :
    Within 2 (lineThrough first second part) :=
  (isFirst.mono (by decide)).add
    ((isSecond.sub isFirst (by decide)).mul isPart (by decide)) (by decide)

theorem within_cubicThrough
    {before first second after part : Float32}
    (isBefore : Within 0 before)
    (isFirst : Within 0 first)
    (isSecond : Within 0 second)
    (isAfter : Within 0 after)
    (isPart : Within 0 part) :
    Within 8 (cubicThrough before first second after part) := by
  have isHalf : Within 0 (0.5 : Float32) :=
    within_of_parts
      (show unpack (0.5 : Float32) =
        .finite .positive (2 ^ 23) (-24) (by decide) from rfl) (by norm_num)
  have isNegativeHalf : Within 0 (-0.5 : Float32) :=
    within_of_parts
      (show unpack (-0.5 : Float32) =
        .finite .negative (2 ^ 23) (-24) (by decide) from rfl) (by norm_num)
  have isThreeHalves : Within 1 (1.5 : Float32) :=
    within_of_parts
      (show unpack (1.5 : Float32) =
        .finite .positive (3 * 2 ^ 22) (-23) (by decide) from rfl) (by norm_num)
  have isFiveHalves : Within 2 (2.5 : Float32) :=
    within_of_parts
      (show unpack (2.5 : Float32) =
        .finite .positive (5 * 2 ^ 21) (-22) (by decide) from rfl) (by norm_num)
  have isTwo : Within 1 (2.0 : Float32) :=
    within_of_parts
      (show unpack (2.0 : Float32) =
        .finite .positive (2 ^ 23) (-22) (by decide) from rfl) (by norm_num)
  have third : Within 4
      (-0.5 * before + 1.5 * first - 1.5 * second + 0.5 * after) :=
    ((((isNegativeHalf.mul isBefore (by decide)).mono (by decide)).add
      (isThreeHalves.mul isFirst (by decide)) (by decide)).sub
        ((isThreeHalves.mul isSecond (by decide)).mono (by decide))
        (by decide)).add
      ((isHalf.mul isAfter (by decide)).mono (by decide)) (by decide)
  have square : Within 5
      (before - 2.5 * first + 2.0 * second - 0.5 * after) :=
    (((isBefore.mono (by decide)).sub
      (isFiveHalves.mul isFirst (by decide)) (by decide)).add
        ((isTwo.mul isSecond (by decide)).mono (by decide)) (by decide)).sub
      ((isHalf.mul isAfter (by decide)).mono (by decide)) (by decide)
  have slope : Within 1 (-0.5 * before + 0.5 * second) :=
    (isNegativeHalf.mul isBefore (by decide)).add
      (isHalf.mul isSecond (by decide)) (by decide)
  have cubed :=
    ((third.mul isPart (by decide)).mono (show 4 + 0 ≤ 5 by decide)).add square
      (by decide)
  have squared :=
    (cubed.mul isPart (by decide)).add
      (slope.mono (show 1 ≤ 5 + 1 + 0 by decide)) (by decide)
  exact (squared.mul isPart (by decide)).add
    (isFirst.mono (show 0 ≤ 5 + 1 + 0 + 1 + 0 by decide)) (by decide)

/-- The way from a sample to a position after it is less than one sample. -/
theorem within_weight
    {position : Float}
    {exact : ℚ}
    (isPosition : Is position exact)
    (nonneg : 0 ≤ exact)
    (small : exact ≤ 2 ^ 63) :
    Within 0 (narrow (position - Float.ofNat position.toUInt64.toNat)) := by
  have representable := Denotes.representable isPosition
  have floorNonneg : 0 ≤ ⌊exact⌋ := Int.floor_nonneg.mpr nonneg
  have floorSmall : ⌊exact⌋ ≤ 2 ^ 63 := by
    exact_mod_cast (Int.floor_le exact).trans small
  have isIndex : position.toUInt64.toNat = ⌊exact⌋.toNat := by
    rw [isPosition.toUInt64 nonneg, min_eq_left (by omega)]
  have isWhole : Is (Float.ofNat position.toUInt64.toNat) ⌊exact⌋ := by
    have isNat :=
      Double.is_ofNat
        (Double.le_limit_of_le (show 63 ≤ 1023 by decide)
          (show ⌊exact⌋.toNat ≤ 2 ^ 63 by omega))
    rwa [← Int.cast_natCast, Int.toNat_of_nonneg floorNonneg,
      representable.floor.rounded_eq, ← isIndex] at isNat
  have fractLe : Int.fract exact ≤ exact :=
    sub_le_self exact (by exact_mod_cast floorNonneg)
  have isFract :
      Is (position - Float.ofNat position.toUInt64.toNat) (Int.fract exact) := by
    have difference :=
      isPosition.sub_within isWhole representable
        (lt_of_abs_lt isPosition.abs_lt_overflow)
        (by
          rw [Int.self_sub_floor, Int.abs_fract]
          exact fractLe)
    rwa [Int.self_sub_floor, (representable.fract nonneg).rounded_eq]
      at difference
  have fractSmall : |Int.fract exact| ≤ 2 ^ 0 := by
    rw [Int.abs_fract, pow_zero]
    exact (Int.fract_lt_one exact).le
  exact ⟨_,
    isFract.narrow (fractSmall.trans (two_pow_le_limit (by decide))),
    (Representable.two_pow 0).abs_rounded_le fractSmall⟩

/-- What is read at a finite position of a recording is finite. -/
theorem within_read
    {cursor : Cursor Float}
    (located : cursor.finished = false → cursor.Inside)
    (pool : Array Int16)
    (method : Interpolation) :
    Within 8 (cursor.read pool method) := by
  unfold read
  split
  · exact inUnit_zero.within.mono (by decide)
  · rename_i unfinished
    rw [Bool.not_eq_true] at unfinished
    obtain ⟨exact, isPosition, nonneg, atMost⟩ := located unfinished
    have isPart := within_weight isPosition nonneg atMost
    have fetched := cursor.within_fetch pool
    cases method with
    | none => exact (fetched _).mono (by decide)
    | linear =>
        exact (within_lineThrough (fetched _) (fetched _) isPart).mono
          (by decide)
    | cubic =>
        exact within_cubicThrough (fetched _) (fetched _) (fetched _)
          (fetched _) isPart

end Cursor

end Polyphony.Sound
