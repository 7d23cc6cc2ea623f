import Polyphony.Proofs.Number.Infinities
import Polyphony.Proofs.Number.Multiples
import Polyphony.Proofs.Playback

/-!
# The course of a cursor

A cursor is moved by steps of any length, infinite ones included, and may be told
to leave its loop.  Until it has finished it stands within its span, and it looks
up no sample outside: the positions that double precision has are dense enough
for any loop to lead back to one before its end.

One kind of step breaks this.  An infinite one ends a recording that runs
straight, but a loop has no remainder to jump by, and its position is lost.
-/

namespace Polyphony.Sound

open Number
open Number.FloatingPoint (spec)

namespace Cursor

/-- The most samples that have positions of their own. -/
def distinct : Nat := 2 ^ 53

/-! ## Calls -/

/-- A call that moves a cursor or changes its course. -/
inductive Call where
  | advance (step : Float)
  | stopLooping

/-- What a call makes of a cursor. -/
def perform
    (cursor : Cursor Float) :
    Call → Cursor Float
  | .advance step => cursor.advance step
  | .stopLooping => cursor.stopLooping

/-- What a series of calls makes of a cursor. -/
def run
    (cursor : Cursor Float)
    (calls : List Call) :
    Cursor Float :=
  calls.foldl perform cursor

@[simp] theorem run_nil (cursor : Cursor Float) :
    cursor.run [] = cursor :=
  rfl

@[simp] theorem run_cons
    (cursor : Cursor Float)
    (call : Call)
    (calls : List Call) :
    cursor.run (call :: calls) = (cursor.perform call).run calls :=
  rfl

/-- No call changes the span. -/
theorem span_perform
    (cursor : Cursor Float)
    (call : Call) :
    (cursor.perform call).start = cursor.start ∧
      (cursor.perform call).stop = cursor.stop := by
  cases call with
  | stopLooping => exact ⟨rfl, rfl⟩
  | advance step =>
      have course := cursor.advanced step
      change (cursor.advance step).start = _ ∧ (cursor.advance step).stop = _
      generalize cursor.advance step = after at course
      cases course <;> exact ⟨rfl, rfl⟩

theorem span_run
    (cursor : Cursor Float)
    (calls : List Call) :
    (cursor.run calls).start = cursor.start ∧
      (cursor.run calls).stop = cursor.stop := by
  induction calls generalizing cursor with
  | nil => exact ⟨rfl, rfl⟩
  | cons call rest inductionHypothesis =>
      obtain ⟨sameStart, sameStop⟩ := cursor.span_perform call
      obtain ⟨restStart, restStop⟩ := inductionHypothesis (cursor.perform call)
      exact ⟨restStart.trans sameStart, restStop.trans sameStop⟩

/-! ## Jumps -/

theorem is_index
    {index : Nat}
    (few : index ≤ distinct) :
    Is (Float.ofNat index) index :=
  Double.is_ofNat_of_le few

/-- The length between two indices is exact. -/
theorem is_length
    {first last : Nat}
    (ordered : first ≤ last)
    (few : last ≤ distinct) :
    Is (Float.ofNat last - Float.ofNat first) (last - first : ℚ) := by
  have isLast := is_index few
  have orderedCast : (first : ℚ) ≤ last := by exact_mod_cast ordered
  have firstNonneg : (0 : ℚ) ≤ first := Nat.cast_nonneg first
  have representable : Representable (spec Float) (last - first : ℚ) := by
    rw [← Nat.cast_sub ordered]
    exact .natCast ((Nat.sub_le last first).trans few)
  have difference :=
    isLast.sub_within (is_index (ordered.trans few))
      (Denotes.representable isLast) (lt_of_abs_lt isLast.abs_lt_overflow)
      (abs_le.mpr ⟨by linarith, by linarith⟩)
  rwa [representable.rounded_eq] at difference

/--
There is a grid that all positions from an index on lie on, and that is so coarse
that its points before the index are positions.
-/
theorem exists_grid
    {index : Nat}
    (some : 0 < index)
    (few : index ≤ distinct) :
    ∃ grid : ℤ,
      (spec Float).minExponent ≤ grid ∧
        grid ≤ 0 ∧
        (index : ℚ) ≤ 2 ^ (spec Float).mantissaBits * 2 ^ grid ∧
        ∀ position,
          Representable (spec Float) position →
          (index : ℚ) ≤ position →
          Multiple grid position := by
  have bits : (spec Float).mantissaBits = 53 := rfl
  have finest : (spec Float).minExponent = -1074 := rfl
  have somePos : (0 : ℚ) < index := by exact_mod_cast some
  have one : (1 : ℚ) ≤ index := by exact_mod_cast some
  have log : 0 ≤ Int.log 2 (index : ℚ) :=
    (Int.zpow_le_iff_le_log (b := 2) (by decide) somePos).mp
      (by rwa [zpow_zero])
  have below : (2 : ℚ) ^ Int.log 2 (index : ℚ) ≤ index := by
    exact_mod_cast Int.zpow_log_le_self (b := 2) (by decide) somePos
  have above : (index : ℚ) < 2 ^ (Int.log 2 (index : ℚ) + 1) := by
    exact_mod_cast Int.lt_zpow_succ_log_self (b := 2) (by decide) (index : ℚ)
  refine ⟨min 0 (Int.log 2 (index : ℚ) + 1 - 53), by omega, by omega, ?_, ?_⟩
  · rcases min_choice 0 (Int.log 2 (index : ℚ) + 1 - 53) with same | same
    · rw [same, zpow_zero, mul_one, bits]
      exact_mod_cast few
    · have carried :
          (2 : ℚ) ^ 53 * 2 ^ (Int.log 2 (index : ℚ) + 1 - 53) =
            2 ^ (Int.log 2 (index : ℚ) + 1) := by
        rw [← zpow_natCast, ← zpow_add₀ (by decide)]
        congr 1
        push_cast
        ring
      rw [same, bits, carried]
      exact above.le
  · intro position representable beyond
    have multiple := Multiple.of_representable representable (below.trans beyond)
    rw [bits] at multiple
    exact multiple.of_finer (min_le_right _ _)

/--
A jump leads back into its loop.  All that it computes with is on the grid of the
loop's end, so that the sum is exact and does not reach the end again.
-/
theorem exists_is_jump
    {loopStart loopStop : Nat}
    {moved : Float}
    {exact : ℚ}
    (apart : loopStart < loopStop)
    (few : loopStop ≤ distinct)
    (isMoved : Is moved exact)
    (reached : loopStop ≤ exact) :
    ∃ position : ℚ,
      Is
          (Float.ofNat loopStart +
            remainder (moved - Float.ofNat loopStart)
              (Float.ofNat loopStop - Float.ofNat loopStart))
          position ∧
        loopStart ≤ position ∧ position < loopStop := by
  have isStart := is_index (apart.le.trans few)
  have isStop := is_index few
  have apartCast : (loopStart : ℚ) < loopStop := by exact_mod_cast apart
  have startNonneg : (0 : ℚ) ≤ loopStart := Nat.cast_nonneg loopStart
  obtain ⟨grid, fine, whole, small, onGrid⟩ :=
    exists_grid (Nat.zero_lt_of_lt apart) few
  have startOnGrid : Multiple grid loopStart := .natCast loopStart whole
  have lengthOnGrid : Multiple grid (loopStop - loopStart) :=
    (Multiple.natCast loopStop whole).sub startOnGrid
  have isPast :=
    isMoved.sub_within isStart (Denotes.representable isMoved)
      (lt_of_abs_lt isMoved.abs_lt_overflow)
      (abs_le.mpr ⟨by linarith, by linarith⟩)
  have pastOnGrid :
      Multiple grid (rounded (spec Float) (exact - loopStart)) :=
    ((onGrid exact (Denotes.representable isMoved) reached).sub
      startOnGrid).rounded (by linarith)
  obtain ⟨quotient, rest, isRemainder, restNonneg, restSmall, isRest⟩ :=
    isPast.remainder (is_length apart.le few) (rounded_nonneg (by linarith))
      (by linarith)
  have restOnGrid : Multiple grid rest := by
    rw [isRemainder]
    exact pastOnGrid.sub (lengthOnGrid.natCast_mul quotient)
  have within : |loopStart + rest| ≤ (loopStop : ℚ) :=
    abs_le.mpr ⟨by linarith, by linarith⟩
  have isSum :=
    isStart.add_within isRest (Denotes.representable isStop)
      (lt_of_abs_lt isStop.abs_lt_overflow) within
  rw [((startOnGrid.add restOnGrid).representable fine
    (within.trans small)).rounded_eq] at isSum
  exact ⟨_, isSum, by linarith, by linarith⟩

/-! ## Cursors within their spans -/

/-- The end that a cursor is about to reach. -/
def limit (cursor : Cursor Float) : Nat :=
  if cursor.looping then cursor.loopStop else cursor.stop

/-- A loop has samples of the span, and an unfinished cursor is before its end. -/
structure Located (cursor : Cursor Float) : Prop where
  loop :
    cursor.looping = true →
    cursor.start ≤ cursor.loopStart ∧
      cursor.loopStart < cursor.loopStop ∧ cursor.loopStop ≤ cursor.stop
  position :
    cursor.finished = false →
    ∃ exact : ℚ,
      Is cursor.position exact ∧ cursor.start ≤ exact ∧ exact < cursor.limit

theorem limit_of_looping
    {cursor : Cursor Float}
    (looping : cursor.looping = true) :
    cursor.limit = cursor.loopStop :=
  if_pos looping

theorem limit_of_straight
    {cursor : Cursor Float}
    (straight : cursor.looping = false) :
    cursor.limit = cursor.stop :=
  if_neg (straight ▸ Bool.false_ne_true)

theorem Located.limit_le
    {cursor : Cursor Float}
    (located : cursor.Located) :
    cursor.limit ≤ cursor.stop := by
  unfold limit
  split
  · rename_i looping
    exact (located.loop looping).2.2
  · exact le_refl _

/-- A cursor starts within its span, unless that is empty. -/
theorem located_new
    {start stop : Nat}
    (loop? : Option (Nat × Nat))
    (few : stop ≤ distinct) :
    (new start stop loop? : Cursor Float).Located where
  loop := loop_new
  position := by
    intro unfinished
    have ordered : start < stop := not_le.mp (of_decide_eq_false unfinished)
    refine ⟨start, is_index (ordered.le.trans few), le_refl _, ?_⟩
    unfold limit
    split
    · rename_i looping
      obtain ⟨fromStart, apart, -⟩ := loop_new looping
      exact_mod_cast lt_of_le_of_lt fromStart apart
    · exact_mod_cast ordered

/-- A finite step forward leads to a position that is not before the span. -/
theorem Located.exists_is_moved
    {step : Float}
    {cursor : Cursor Float}
    (located : cursor.Located)
    (few : cursor.stop ≤ distinct)
    (unfinished : cursor.finished = false)
    (forward : 0 ≤ step)
    (finite : step.isFinite = true) :
    ∃ moved : ℚ, Is (cursor.position + step) moved ∧ cursor.start ≤ moved := by
  obtain ⟨exact, isPosition, above, below⟩ := located.position unfinished
  obtain ⟨distance, isStep⟩ := Double.isFinite_iff.mp finite
  have distanceNonneg := (Double.is_zero.le_iff isStep).mp forward
  have startNonneg : (0 : ℚ) ≤ cursor.start := Nat.cast_nonneg cursor.start
  have limitFew := located.limit_le.trans few
  have startFew : cursor.start ≤ distinct := by
    have ordered : (cursor.start : ℚ) < cursor.limit := above.trans_lt below
    exact (Nat.cast_lt.mp ordered).le.trans limitFew
  have small : exact ≤ 2 ^ 53 :=
    below.le.trans (by exact_mod_cast limitFew)
  refine ⟨_,
    Double.is_add isPosition isStep (by linarith) (by linarith) distanceNonneg,
    ?_⟩
  rw [← (Denotes.representable (is_index startFew)).rounded_eq]
  exact rounded_mono (by linarith)

/-- A step from within the span leads to within it, or to its end. -/
theorem Located.advance
    {step : Float}
    {cursor : Cursor Float}
    (located : cursor.Located)
    (few : cursor.stop ≤ distinct)
    (forward : 0 ≤ step)
    (bounded : cursor.looping = true → step.isFinite = true) :
    (cursor.advance step).Located := by
  have course := cursor.advanced step
  generalize cursor.advance step = after at course
  cases course with
  | rested finished => exact located
  | jumped unfinished looping reached =>
      refine ⟨located.loop, fun _ => ?_⟩
      obtain ⟨fromStart, apart, toStop⟩ := located.loop looping
      obtain ⟨moved, isMoved, -⟩ :=
        located.exists_is_moved few unfinished forward (bounded looping)
      have loopFew := toStop.trans few
      obtain ⟨position, isJump, above, below⟩ :=
        exists_is_jump apart loopFew isMoved
          (((is_index loopFew).le_iff isMoved).mp reached)
      have startBelow : (cursor.start : ℚ) ≤ cursor.loopStart := by
        exact_mod_cast fromStart
      exact ⟨position, isJump, startBelow.trans above,
        below.trans_eq (congrArg Nat.cast (limit_of_looping looping).symm)⟩
  | circled unfinished looping before =>
      refine ⟨located.loop, fun _ => ?_⟩
      obtain ⟨-, -, toStop⟩ := located.loop looping
      obtain ⟨moved, isMoved, above⟩ :=
        located.exists_is_moved few unfinished forward (bounded looping)
      rw [(is_index (toStop.trans few)).le_iff isMoved, not_le] at before
      exact ⟨moved, isMoved, above,
        before.trans_eq (congrArg Nat.cast (limit_of_looping looping).symm)⟩
  | ran unfinished straight =>
      refine ⟨located.loop, fun running => ?_⟩
      have before := of_decide_eq_false running
      -- An infinite step would have been the last one.
      rcases Double.isFinite_or_isInfinite forward with finite | infinite
      · obtain ⟨moved, isMoved, above⟩ :=
          located.exists_is_moved few unfinished forward finite
        rw [(is_index few).le_iff isMoved, not_le] at before
        exact ⟨moved, isMoved, above,
          before.trans_eq (congrArg Nat.cast (limit_of_straight straight).symm)⟩
      · obtain ⟨exact, isPosition, -⟩ := located.position unfinished
        exact absurd
          ((is_index few).le_infinite (isPosition.add_infinite infinite)) before

/-- To leave the loop takes the end further away. -/
theorem Located.stopLooping
    {cursor : Cursor Float}
    (located : cursor.Located) :
    cursor.stopLooping.Located where
  loop := fun looping => absurd looping Bool.false_ne_true
  position := by
    intro unfinished
    obtain ⟨exact, isPosition, above, below⟩ := located.position unfinished
    have further : (cursor.limit : ℚ) ≤ cursor.stop := by
      exact_mod_cast located.limit_le
    exact ⟨exact, isPosition, above, below.trans_le further⟩

/-- A cursor stays within its span in a course of which no step is backward, and
none is infinite in a loop. -/
theorem Located.run
    {cursor : Cursor Float}
    (located : cursor.Located)
    (few : cursor.stop ≤ distinct)
    (calls : List Call)
    (forward : ∀ step, Call.advance step ∈ calls → 0 ≤ step)
    (bounded : ∀ before step after,
      calls = before ++ .advance step :: after →
      (cursor.run before).looping = true →
      step.isFinite = true) :
    (cursor.run calls).Located := by
  induction calls generalizing cursor with
  | nil => exact located
  | cons call rest inductionHypothesis =>
      have performed : (cursor.perform call).Located := by
        cases call with
        | advance step =>
            exact located.advance few (forward step List.mem_cons_self)
              (bounded [] step rest rfl)
        | stopLooping => exact located.stopLooping
      refine inductionHypothesis performed ?_
        (fun step member => forward step (List.mem_cons_of_mem call member)) ?_
      · rwa [(cursor.span_perform call).2]
      · intro before step after split looping
        exact bounded (call :: before) step after (by rw [split]; rfl) looping

/-! ## Reads -/

section

variable {Position : Type} {cursor : Cursor Position}
  {pool other : Array Int16} {index : Nat}

/-- A sample is taken from where the loop leads its index, if from anywhere. -/
theorem fetch_congr
    (same : cursor.wrapIndex index < cursor.stop →
      pool[cursor.wrapIndex index]? = other[cursor.wrapIndex index]?) :
    cursor.fetch pool index = cursor.fetch other index := by
  unfold fetch
  dsimp only
  split
  · rfl
  · rename_i inside
    rw [same (not_le.mp inside)]

theorem fetch_past
    (past : cursor.stop ≤ cursor.wrapIndex index)
    (pool : Array Int16) :
    cursor.fetch pool index = 0 :=
  if_pos past

/-- A loop leads no index to before the span. -/
theorem start_le_wrapIndex
    (loop : cursor.looping = true → cursor.start ≤ cursor.loopStart)
    (inside : cursor.start ≤ index) :
    cursor.start ≤ cursor.wrapIndex index := by
  unfold wrapIndex
  split
  · rename_i past
    rw [Bool.and_eq_true] at past
    exact (loop past.1).trans (Nat.le_add_right _ _)
  · exact inside

variable [PositionArithmetic Position]

/-- The indices that a read takes samples at, as if nothing ended or looped. -/
def neighbours
    (cursor : Cursor Position)
    (method : Interpolation) :
    List Nat :=
  let index := PositionArithmetic.index cursor.position
  match method with
  | .none => [index]
  | .linear => [index, index + 1]
  | .cubic => [max (index - 1) cursor.start, index, index + 1, index + 2]

/-- A read depends on no other samples than those at its neighbours. -/
theorem read_congr
    {method : Interpolation}
    (same : ∀ index ∈ cursor.neighbours method,
      cursor.fetch pool index = cursor.fetch other index) :
    cursor.read pool method = cursor.read other method := by
  unfold read
  split
  · rfl
  · cases method with
    | none => simpa [neighbours] using same
    | linear =>
        obtain ⟨first, second⟩ := by simpa [neighbours] using same
        simp only [first, second]
    | cubic =>
        obtain ⟨before, first, second, after⟩ := by
          simpa [neighbours] using same
        simp only [before, first, second, after]

end

/-- The neighbours of a position within the span are not before the span. -/
theorem Located.start_le_of_mem
    {cursor : Cursor Float}
    (located : cursor.Located)
    (few : cursor.stop ≤ distinct)
    (unfinished : cursor.finished = false)
    {method : Interpolation}
    {index : Nat}
    (member : index ∈ cursor.neighbours method) :
    cursor.start ≤ index := by
  obtain ⟨exact, isPosition, above, below⟩ := located.position unfinished
  have first : cursor.start ≤ PositionArithmetic.index cursor.position := by
    have whole : (cursor.start : ℤ) ≤ ⌊exact⌋ :=
      Int.le_floor.mpr (by exact_mod_cast above)
    have beforeLimit : ⌊exact⌋ < (cursor.limit : ℤ) :=
      Int.floor_lt.mpr (by exact_mod_cast below)
    have limitFew : cursor.limit ≤ 2 ^ 53 := located.limit_le.trans few
    change cursor.start ≤ cursor.position.toUInt64.toNat
    rw [isPosition.toUInt64 ((Nat.cast_nonneg _).trans above)]
    omega
  cases method <;>
    simp only [neighbours, List.mem_cons, List.not_mem_nil, or_false]
      at member <;>
    omega

/-- Each neighbour is a sample of the span or counts as silence. -/
theorem Located.inside_or_silent
    {cursor : Cursor Float}
    (located : cursor.Located)
    (few : cursor.stop ≤ distinct)
    (unfinished : cursor.finished = false)
    {method : Interpolation}
    {index : Nat}
    (member : index ∈ cursor.neighbours method) :
    cursor.start ≤ cursor.wrapIndex index ∧
        cursor.wrapIndex index < cursor.stop ∨
      ∀ pool, cursor.fetch pool index = 0 := by
  rcases lt_or_ge (cursor.wrapIndex index) cursor.stop with inside | past
  · exact .inl ⟨start_le_wrapIndex (fun looping => (located.loop looping).1)
      (located.start_le_of_mem few unfinished member), inside⟩
  · exact .inr (fetch_past past)

/-- The span is all of a pool that a read depends on. -/
theorem Located.read_congr
    {cursor : Cursor Float}
    (located : cursor.Located)
    (few : cursor.stop ≤ distinct)
    (unfinished : cursor.finished = false)
    {pool other : Array Int16}
    (same : ∀ index, cursor.start ≤ index → index < cursor.stop →
      pool[index]? = other[index]?)
    (method : Interpolation) :
    cursor.read pool method = cursor.read other method := by
  apply Cursor.read_congr
  intro index member
  rcases located.inside_or_silent few unfinished member with
    ⟨above, below⟩ | silent
  · exact fetch_congr fun _ => same _ above below
  · rw [silent pool, silent other]

/--
Until it has finished, a new cursor stays within its span, whatever its loop and
whatever its course of steps forward, as long as none is infinite in a loop.  A
read by any method takes the samples of the span, and silence for all others.
-/
theorem run_reads_inside
    {start stop : Nat}
    {loop? : Option (Nat × Nat)}
    {calls : List Call}
    {cursor : Cursor Float}
    (isRun : (new start stop loop?).run calls = cursor)
    (few : stop ≤ distinct)
    (forward : ∀ step, Call.advance step ∈ calls → 0 ≤ step)
    (bounded : ∀ before step after,
      calls = before ++ .advance step :: after →
      ((new start stop loop?).run before).looping = true →
      step.isFinite = true)
    (unfinished : cursor.finished = false) :
    (∃ exact : ℚ, Is cursor.position exact ∧ start ≤ exact ∧ exact < stop) ∧
      ∀ method,
        (∀ index ∈ cursor.neighbours method,
          start ≤ cursor.wrapIndex index ∧ cursor.wrapIndex index < stop ∨
            ∀ pool, cursor.fetch pool index = 0) ∧
          ∀ pool other : Array Int16,
            (∀ index, start ≤ index → index < stop →
              pool[index]? = other[index]?) →
            cursor.read pool method = cursor.read other method := by
  have located := (located_new loop? few).run few calls forward bounded
  obtain ⟨isStart, isStop⟩ :=
    (new start stop loop? : Cursor Float).span_run calls
  rw [isRun] at located isStart isStop
  change cursor.start = start at isStart
  change cursor.stop = stop at isStop
  subst isStart isStop
  obtain ⟨exact, isPosition, above, below⟩ := located.position unfinished
  have further : (cursor.limit : ℚ) ≤ cursor.stop := by
    exact_mod_cast located.limit_le
  exact ⟨⟨exact, isPosition, above, below.trans_le further⟩, fun method =>
    ⟨fun index member => located.inside_or_silent few unfinished member,
      fun pool other same => located.read_congr few unfinished same method⟩⟩

/-- A course of the span from 1 to 8 and the loop from 2 to 6. -/
def rounds : List Call :=
  [.advance 4.5, .advance 2.75, .stopLooping, .advance 0.25]

/-- A cursor that goes round its loop and leaves it reads samples of its span. -/
theorem rounds_read_inside :
    ∃ cursor : Cursor Float,
      (new 1 8 (some (2, 6))).run rounds = cursor ∧
        cursor.finished = false ∧
        cursor.neighbours .linear = [4, 5] ∧
        ∃ exact : ℚ, Is cursor.position exact ∧ 1 ≤ exact ∧ exact < 8 := by
  have finite :
      ∀ step, Call.advance step ∈ rounds → 0 ≤ step ∧ step.isFinite = true := by
    intro step member
    simp only [rounds, List.mem_cons, Call.advance.injEq, reduceCtorEq,
      List.not_mem_nil, false_or, or_false] at member
    rcases member with rfl | rfl | rfl <;> decide +kernel
  have unfinished :
      ((new 1 8 (some (2, 6)) : Cursor Float).run rounds).finished = false := by
    decide +kernel
  obtain ⟨⟨exact, isPosition, above, below⟩, -⟩ :=
    run_reads_inside rfl (by decide) (fun step member => (finite step member).1)
      (fun before step after split _ =>
        (finite step (by rw [split]; simp)).2)
      unfinished
  exact ⟨_, rfl, unfinished, by decide +kernel, exact, isPosition,
    by exact_mod_cast above, by exact_mod_cast below⟩

/-! ## Lost positions -/

/-- An infinite step in a loop leads to no number, and not to the end either. -/
theorem Located.isLost_advance
    {step : Float}
    {cursor : Cursor Float}
    (located : cursor.Located)
    (few : cursor.stop ≤ distinct)
    (unfinished : cursor.finished = false)
    (looping : cursor.looping = true)
    (infinite : IsInfinite step) :
    (cursor.advance step).finished = false ∧
      IsLost (cursor.advance step).position := by
  obtain ⟨exact, isPosition, -⟩ := located.position unfinished
  obtain ⟨-, apart, toStop⟩ := located.loop looping
  have moved := isPosition.add_infinite infinite
  have course := cursor.advanced step
  generalize cursor.advance step = after at course
  cases course with
  | rested finished => exact absurd finished (by simp [unfinished])
  | jumped _ _ _ =>
      have past := moved.sub (is_index (apart.le.trans (toStop.trans few)))
      exact ⟨unfinished, (Double.isLost_remainder past _).add_left _⟩
  | circled _ _ before =>
      exact absurd ((is_index (toStop.trans few)).le_infinite moved) before
  | ran _ straight => exact absurd looping (by simp [straight])

/-- A lost position is never found again, and no end is ever reached from it. -/
theorem isLost_run
    {cursor : Cursor Float}
    (unfinished : cursor.finished = false)
    (lost : IsLost cursor.position)
    (calls : List Call) :
    (cursor.run calls).finished = false ∧ IsLost (cursor.run calls).position := by
  induction calls generalizing cursor with
  | nil => exact ⟨unfinished, lost⟩
  | cons call rest inductionHypothesis =>
      suffices performed :
          (cursor.perform call).finished = false ∧
            IsLost (cursor.perform call).position from
        inductionHypothesis performed.1 performed.2
      cases call with
      | stopLooping => exact ⟨unfinished, lost⟩
      | advance step =>
          have moved := lost.add_right step
          have course := cursor.advanced step
          change (cursor.advance step).finished = false ∧
            IsLost (cursor.advance step).position
          generalize cursor.advance step = after at course
          cases course with
          | rested finished => exact ⟨unfinished, lost⟩
          | jumped _ _ reached => exact absurd reached (moved.not_le _)
          | circled _ _ before => exact ⟨unfinished, moved⟩
          | ran _ straight => exact ⟨decide_eq_false (moved.not_le _), moved⟩

/--
After an infinite step in a loop no call brings the cursor to a position or to an
end.  It is the very first sample of the pool that is read from then on, whatever
the span.
-/
theorem Located.run_lost
    {step : Float}
    {cursor after : Cursor Float}
    (located : cursor.Located)
    (few : cursor.stop ≤ distinct)
    (unfinished : cursor.finished = false)
    (looping : cursor.looping = true)
    (infinite : IsInfinite step)
    {calls : List Call}
    (isRun : (cursor.advance step).run calls = after) :
    after.finished = false ∧
      (∀ exact, ¬ Is after.position exact) ∧ after.neighbours .none = [0] := by
  obtain ⟨stillUnfinished, lost⟩ :=
    located.isLost_advance few unfinished looping infinite
  have course := isLost_run stillUnfinished lost calls
  rw [isRun] at course
  exact ⟨course.1, course.2.not_is,
    congrArg (fun index => [index]) (Double.toUInt64_of_isLost course.2)⟩

/--
What an infinite step does to the span from 4 to 8 that is a loop: no call ends it
any more, and the position is none at all.  So a course of steps forward alone
does not keep a cursor within its span.
-/
theorem not_run_reads_inside_for_infinite_steps :
    ¬ ∀ (start stop : Nat) (loop? : Option (Nat × Nat)) (calls : List Call),
      stop ≤ distinct →
      (∀ step, Call.advance step ∈ calls → 0 ≤ step) →
      ((new start stop loop? : Cursor Float).run calls).finished = false →
      ∃ exact : ℚ,
        Is ((new start stop loop?).run calls).position exact ∧
          start ≤ exact ∧ exact < stop := by
  intro inside
  obtain ⟨exact, isPosition, -⟩ :=
    inside 4 8 (some (4, 8)) [.advance (1 / 0)] (by decide)
      (by
        intro step member
        simp only [List.mem_singleton, Call.advance.injEq] at member
        subst member
        decide +kernel)
      (by decide +kernel)
  exact absurd (Double.isFinite_iff.mpr ⟨exact, isPosition⟩) (by decide +kernel)

/-- Beyond the bound, double precision has no position for the start of a span. -/
example :
    (new (distinct + 1) (distinct + 2) none : Cursor Float).neighbours .none =
      [distinct] := by
  decide +kernel

end Cursor

end Polyphony.Sound
