import Polyphony.Proofs.CursorCourse
import Polyphony.Proofs.UnrolledLoops

/-!
# What a loop reads

A cursor that has jumped back once never again stands before its loop, and the
neighbours it takes ahead of its position are led back into the loop.  So what it
reads is the loop's sound alone, with one exception: the neighbour behind the
loop's first sample is not led to the loop's last one.  The curve through four
samples takes the sample before the loop there, each time the loop starts anew.
-/

namespace Polyphony.Sound

open Number
open Number.FloatingPoint (spec)

namespace Cursor

/-! ## Neighbours in a loop -/

section

variable {Position : Type} {cursor : Cursor Position}
  {pool other : Array Int16}

/-- All indices from the start of a loop on are led to one of its samples. -/
theorem wrapIndex_inside
    {index : Nat}
    (looping : cursor.looping = true)
    (apart : cursor.loopStart < cursor.loopStop)
    (inLoop : cursor.loopStart ≤ index) :
    cursor.loopStart ≤ cursor.wrapIndex index ∧
      cursor.wrapIndex index < cursor.loopStop := by
  have inside :=
    Nat.mod_lt (index - cursor.loopStop) (Nat.sub_pos_of_lt apart)
  unfold wrapIndex
  split
  · omega
  · rename_i before
    simp only [looping, Bool.true_and, decide_eq_true_eq] at before
    omega

variable [PositionArithmetic Position]

/--
A read from a position in the loop takes samples of the loop.  Only the neighbour
behind the first of them, if the span has one, is the sample before the loop.
-/
theorem read_eq_of_agree_on_loop
    {method : Interpolation}
    (looping : cursor.looping = true)
    (apart : cursor.loopStart < cursor.loopStop)
    (inLoop : cursor.loopStart ≤ PositionArithmetic.index cursor.position)
    (same : ∀ index, cursor.loopStart ≤ index → index < cursor.loopStop →
      pool[index]? = other[index]?)
    (sameBehind :
      method = .cubic →
      PositionArithmetic.index cursor.position = cursor.loopStart →
      cursor.start < cursor.loopStart →
      pool[cursor.loopStart - 1]? = other[cursor.loopStart - 1]?) :
    cursor.read pool method = cursor.read other method := by
  have ahead (index : Nat) (reached : cursor.loopStart ≤ index) :
      cursor.fetch pool index = cursor.fetch other index := by
    obtain ⟨above, below⟩ := wrapIndex_inside looping apart reached
    exact fetch_congr fun _ => same _ above below
  apply Cursor.read_congr
  intro index member
  cases method with
  | none =>
      obtain rfl := List.mem_singleton.mp member
      exact ahead _ inLoop
  | linear =>
      simp only [neighbours, List.mem_cons, List.not_mem_nil, or_false]
        at member
      exact ahead index (by omega)
  | cubic =>
      simp only [neighbours, List.mem_cons, List.not_mem_nil, or_false]
        at member
      rcases lt_or_ge index cursor.loopStart with behind | reached
      · have isFirst :
            PositionArithmetic.index cursor.position = cursor.loopStart := by
          omega
        have isBehind : index = cursor.loopStart - 1 := by omega
        have unled : cursor.wrapIndex index = index := by
          unfold wrapIndex
          exact if_neg (by simp; omega)
        refine fetch_congr fun _ => ?_
        rw [unled, isBehind]
        exact sameBehind rfl isFirst (by omega)
      · exact ahead index reached

end

/-! ## Cursors that go round -/

/-- A step forward of some length. -/
def IsForward (step : Float) : Prop :=
  0 ≤ step ∧ step.isFinite = true

theorem IsForward.exists_is
    {step : Float}
    (forward : IsForward step) :
    ∃ distance : ℚ, Is step distance ∧ 0 ≤ distance := by
  obtain ⟨distance, isStep⟩ := Double.isFinite_iff.mp forward.2
  exact ⟨distance, isStep, (Double.is_zero.le_iff isStep).mp forward.1⟩

/--
A cursor stands somewhere in a span that memory can hold, and follows a loop whose
first sample and the next have positions of their own.
-/
structure GoesRound (cursor : Cursor Float) : Prop where
  framed : cursor.Framed
  short : cursor.stop ≤ longest
  few : cursor.loopStart < distinct
  looping : cursor.looping = true
  unfinished : cursor.finished = false
  inside : cursor.Inside

/-- A cursor is no longer before its loop. -/
def HasEntered (cursor : Cursor Float) : Prop :=
  ∃ exact : ℚ, Is cursor.position exact ∧ cursor.loopStart ≤ exact

/-- In a loop it is only the position that a step changes. -/
theorem exists_advance_looping
    {cursor : Cursor Float}
    (looping : cursor.looping = true)
    (step : Float) :
    ∃ position, cursor.advance step = { cursor with position := position } := by
  have course := cursor.advanced step
  generalize cursor.advance step = after at course
  cases course with
  | rested _ => exact ⟨_, rfl⟩
  | jumped _ _ _ => exact ⟨_, rfl⟩
  | circled _ _ _ => exact ⟨_, rfl⟩
  | ran _ straight => exact absurd looping (by simp [straight])

namespace GoesRound

variable {cursor : Cursor Float} {step : Float}

theorem isLoopStart
    (goesRound : cursor.GoesRound) :
    Is (Float.ofNat cursor.loopStart) cursor.loopStart :=
  is_index goesRound.few.le

theorem isLoopStop
    (goesRound : cursor.GoesRound) :
    Is (Float.ofNat cursor.loopStop) (place cursor.loopStop) :=
  goesRound.framed.isLoopStop goesRound.short goesRound.looping

/-- The end of the loop is at another position than its start. -/
theorem loopStart_lt_place
    (goesRound : cursor.GoesRound) :
    cursor.loopStart < place cursor.loopStop := by
  have next : place (cursor.loopStart + 1) = (cursor.loopStart + 1 : Nat) :=
    (Representable.natCast goesRound.few).rounded_eq
  have notBefore :=
    place_mono (Nat.succ_le_of_lt (goesRound.framed.loop goesRound.looping).1)
  rw [Nat.succ_eq_add_one, next, Nat.cast_succ] at notBefore
  linarith

theorem apart
    (goesRound : cursor.GoesRound) :
    cursor.Apart := fun _ =>
  (goesRound.isLoopStart.lt_iff goesRound.isLoopStop).mpr
    goesRound.loopStart_lt_place

/-- A cursor that goes round does so for ever. -/
theorem advance
    (goesRound : cursor.GoesRound)
    (forward : IsForward step) :
    (cursor.advance step).GoesRound := by
  obtain ⟨distance, isStep, nonneg⟩ := forward.exists_is
  obtain ⟨position, moved⟩ := exists_advance_looping goesRound.looping step
  have framed : (cursor.advance step).Framed :=
    goesRound.framed.advance goesRound.short fun _ isDistance =>
      isDistance.unique isStep ▸ nonneg
  have unfinished : (cursor.advance step).finished = false := by
    rw [moved]
    exact goesRound.unfinished
  have inside : (cursor.advance step).Inside :=
    framed.inside unfinished
      (goesRound.inside.exists_is_advance goesRound.framed goesRound.short
        goesRound.apart isStep nonneg)
  rw [moved] at framed unfinished inside ⊢
  exact ⟨framed, goesRound.short, goesRound.few, goesRound.looping, unfinished,
    inside⟩

/-- A jump leads into the loop, and no other step leads out of it again. -/
theorem hasEntered_advance
    (goesRound : cursor.GoesRound)
    (forward : IsForward step)
    (enters :
      cursor.HasEntered ∨
        Float.ofNat cursor.loopStop ≤ cursor.position + step) :
    (cursor.advance step).HasEntered := by
  obtain ⟨distance, isStep, stepNonneg⟩ := forward.exists_is
  obtain ⟨exact, isPosition, nonneg, atMost⟩ := goesRound.inside
  have isStart := goesRound.isLoopStart
  have isStop := goesRound.isLoopStop
  have isMoved := Double.is_add isPosition isStep nonneg atMost stepNonneg
  have course := cursor.advanced step
  generalize cursor.advance step = after at course
  cases course with
  | rested finished => exact absurd finished (by simp [goesRound.unfinished])
  | jumped _ looping reached =>
      obtain ⟨position, isJumped, above, -⟩ :=
        exists_is_jumped isStart isStop isMoved (Nat.cast_nonneg _)
          goesRound.loopStart_lt_place
          (place_le ((goesRound.framed.loop looping).2.trans goesRound.short))
          ((isStop.le_iff isMoved).mp reached)
      exact ⟨position, isJumped, above⟩
  | circled _ _ before =>
      obtain ⟨here, isHere, above⟩ := enters.resolve_right before
      obtain rfl := isHere.unique isPosition
      refine ⟨_, isMoved, ?_⟩
      rw [← (Denotes.representable isStart).rounded_eq]
      exact rounded_mono (above.trans (le_add_of_nonneg_right stepNonneg))
  | ran _ straight => exact absurd goesRound.looping (by simp [straight])

/-- The sample that a cursor in its loop stands at is one of the loop. -/
theorem loopStart_le_index
    (goesRound : cursor.GoesRound)
    (entered : cursor.HasEntered) :
    cursor.loopStart ≤ PositionArithmetic.index cursor.position := by
  obtain ⟨exact, isPosition, above⟩ := entered
  have whole : (cursor.loopStart : ℤ) ≤ ⌊exact⌋ :=
    Int.le_floor.mpr (by exact_mod_cast above)
  have few : cursor.loopStart < 2 ^ 53 := goesRound.few
  change cursor.loopStart ≤ cursor.position.toUInt64.toNat
  rw [isPosition.toUInt64 ((Nat.cast_nonneg _).trans above)]
  omega

variable {steps : List Float}

theorem advanceAll
    (goesRound : cursor.GoesRound)
    (forward : ∀ step ∈ steps, IsForward step) :
    (advanceAll steps cursor).GoesRound := by
  induction steps generalizing cursor with
  | nil => exact goesRound
  | cons step rest inductionHypothesis =>
      obtain ⟨stepForward, restForward⟩ := List.forall_mem_cons.mp forward
      exact inductionHypothesis (goesRound.advance stepForward) restForward

theorem hasEntered_advanceAll
    (goesRound : cursor.GoesRound)
    (forward : ∀ step ∈ steps, IsForward step)
    (entered : cursor.HasEntered) :
    (Cursor.advanceAll steps cursor).HasEntered := by
  induction steps generalizing cursor with
  | nil => exact entered
  | cons step rest inductionHypothesis =>
      obtain ⟨stepForward, restForward⟩ := List.forall_mem_cons.mp forward
      exact inductionHypothesis (goesRound.advance stepForward) restForward
        (goesRound.hasEntered_advance stepForward (.inl entered))

end GoesRound

theorem exists_advanceAll_looping
    {cursor : Cursor Float}
    (looping : cursor.looping = true)
    (steps : List Float) :
    ∃ position,
      advanceAll steps cursor = { cursor with position := position } := by
  induction steps generalizing cursor with
  | nil => exact ⟨_, rfl⟩
  | cons step rest inductionHypothesis =>
      obtain ⟨moved, isMoved⟩ := exists_advance_looping looping step
      have stillLooping : (cursor.advance step).looping = true := by
        rw [isMoved]
        exact looping
      obtain ⟨position, isLast⟩ := inductionHypothesis stillLooping
      rw [isMoved] at isLast
      exact ⟨position, by rw [advanceAll_cons, isMoved, isLast]⟩

/-- A cursor goes round from the start of its span. -/
theorem goesRound_new
    {start stop loopStart loopStop : Nat}
    (fitting : start ≤ loopStart ∧ loopStart < loopStop ∧ loopStop ≤ stop)
    (short : stop ≤ longest)
    (few : loopStart < distinct) :
    (new start stop (some (loopStart, loopStop)) : Cursor Float).GoesRound := by
  obtain ⟨fromStart, apart, toStop⟩ := fitting
  have framed : (new start stop (some (loopStart, loopStop))).Framed :=
    framed_new _ short
  rw [new_eq_circling fromStart apart toStop] at framed ⊢
  exact ⟨framed, short, few, rfl, rfl,
    framed.inside rfl ⟨_, is_place ((fromStart.trans apart.le).trans (toStop.trans short))⟩⟩

/--
From the first jump of a loop on, all reads depend on the loop's samples alone,
with one exception.  Where the loop does not begin with the span, the cubic curve
from its first sample to its second takes the sample before the loop into account.
-/
theorem advanceAll_reads_loop
    {start stop loopStart loopStop : Nat}
    {earlier later : List Float}
    {step : Float}
    {cursor : Cursor Float}
    (fitting : start ≤ loopStart ∧ loopStart < loopStop ∧ loopStop ≤ stop)
    (short : stop ≤ longest)
    (few : loopStart < distinct)
    (forward : ∀ distance ∈ earlier ++ step :: later, IsForward distance)
    (jumps :
      Float.ofNat loopStop ≤
        (advanceAll earlier
          (new start stop (some (loopStart, loopStop)))).position + step)
    (isRun :
      advanceAll (earlier ++ step :: later)
        (new start stop (some (loopStart, loopStop))) = cursor) :
    cursor.finished = false ∧
      loopStart ≤ PositionArithmetic.index cursor.position ∧
      ∀ (method : Interpolation) (pool other : Array Int16),
        (∀ index, loopStart ≤ index → index < loopStop →
          pool[index]? = other[index]?) →
        (method = .cubic →
          PositionArithmetic.index cursor.position = loopStart →
          start < loopStart →
          pool[loopStart - 1]? = other[loopStart - 1]?) →
        cursor.read pool method = cursor.read other method := by
  obtain ⟨earlierForward, onward⟩ := List.forall_mem_append.mp forward
  obtain ⟨stepForward, laterForward⟩ := List.forall_mem_cons.mp onward
  have before := (goesRound_new fitting short few).advanceAll earlierForward
  obtain ⟨fromStart, apart, toStop⟩ := fitting
  rw [new_eq_circling fromStart apart toStop] at before jumps isRun
  have moves (steps : List Float) :
      ∃ position,
        advanceAll steps
            (circling start stop loopStart loopStop
              (PositionArithmetic.ofIndex start)) =
          circling start stop loopStart loopStop position :=
    exists_advanceAll_looping rfl steps
  have jumped :=
    before.hasEntered_advance stepForward
      (.inr (by
        obtain ⟨position, isBefore⟩ := moves earlier
        rw [isBefore] at jumps ⊢
        exact jumps))
  have round := (before.advance stepForward).advanceAll laterForward
  have entered :=
    (before.advance stepForward).hasEntered_advanceAll laterForward jumped
  obtain ⟨position, isLast⟩ := moves (earlier ++ step :: later)
  rw [← advanceAll_cons, ← advanceAll_append, isLast] at round entered
  rw [isLast] at isRun
  subst isRun
  have inLoop := round.loopStart_le_index entered
  exact ⟨rfl, inLoop, fun method pool other same sameBehind =>
    read_eq_of_agree_on_loop rfl apart inLoop same sameBehind⟩

/-! ## A loop of silence -/

/-- A stroke, and silence after it. -/
def struck : Array Int16 :=
  #[16384, 0, 0, 0]

/-- Silence, which the stroke leaves. -/
def unstruck : Array Int16 :=
  #[0, 0, 0, 0]

theorem struck_eq_unstruck
    (index : Nat)
    (afterStroke : 1 ≤ index)
    (before : index < 4) :
    struck[index]? = unstruck[index]? := by
  have all : ∀ index < 4, 1 ≤ index → struck[index]? = unstruck[index]? := by
    decide
  exact all index before afterStroke

/-- Beyond its first sample the silence after a stroke is read as silence. -/
theorem silence_reads_loop :
    let cursor : Cursor Float := advanceAll ([] ++ 4.5 :: [1]) (new 0 4 (some (1, 4)))
    cursor.finished = false ∧
      PositionArithmetic.index cursor.position = 2 ∧
      cursor.read struck .cubic = cursor.read unstruck .cubic := by
  intro cursor
  have forward : ∀ distance ∈ [] ++ (4.5 : Float) :: [1], IsForward distance := by
    simp only [List.nil_append, List.forall_mem_cons, List.not_mem_nil,
      false_implies, implies_true, and_true]
    exact ⟨⟨by decide +kernel, by decide +kernel⟩,
      ⟨by decide +kernel, by decide +kernel⟩⟩
  have atThird : PositionArithmetic.index cursor.position = 2 := by
    decide +kernel
  obtain ⟨unfinished, -, sameReads⟩ :=
    advanceAll_reads_loop (by decide) (by decide) (by decide) forward
      (by decide +kernel) (rfl : advanceAll _ (new 0 4 (some (1, 4))) = cursor)
  exact ⟨unfinished, atThird,
    sameReads .cubic struck unstruck struck_eq_unstruck fun _ atFirst =>
      absurd (atThird.symm.trans atFirst) (by decide)⟩

/-- At its first sample, it is not: the stroke before the loop is heard again. -/
theorem not_advanceAll_reads_loop_alone :
    ¬ ∀ (start stop loopStart loopStop : Nat) (earlier later : List Float)
        (step : Float),
      start ≤ loopStart ∧ loopStart < loopStop ∧ loopStop ≤ stop →
      stop ≤ longest →
      loopStart < distinct →
      (∀ distance ∈ earlier ++ step :: later, IsForward distance) →
      Float.ofNat loopStop ≤
        (advanceAll earlier
          (new start stop (some (loopStart, loopStop)))).position + step →
      ∀ pool other : Array Int16,
        (∀ index, loopStart ≤ index → index < loopStop →
          pool[index]? = other[index]?) →
        let cursor :=
          advanceAll (earlier ++ step :: later)
            (new start stop (some (loopStart, loopStop)))
        cursor.read pool .cubic = cursor.read other .cubic := by
  intro alone
  have forward : ∀ distance ∈ [] ++ (4.5 : Float) :: [], IsForward distance := by
    simp only [List.nil_append, List.forall_mem_cons, List.not_mem_nil,
      false_implies, implies_true, and_true]
    exact ⟨by decide +kernel, by decide +kernel⟩
  have sameReads :=
    alone 0 4 1 4 [] [] 4.5 (by decide) (by decide) (by decide) forward
      (by decide +kernel) struck unstruck struck_eq_unstruck
  exact absurd sameReads (by decide +kernel)

end Cursor

end Polyphony.Sound
