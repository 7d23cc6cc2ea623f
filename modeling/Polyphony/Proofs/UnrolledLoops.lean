import Mathlib.Algebra.BigOperators.Group.List.Basic
import Mathlib.Algebra.Order.BigOperators.Group.List
import Mathlib.Algebra.Order.Field.Basic
import Mathlib.Algebra.Order.Floor.Ring
import Mathlib.Data.Rat.Floor
import Mathlib.Tactic.FieldSimp
import Mathlib.Tactic.Linarith
import Mathlib.Tactic.Ring
import Polyphony.Sound.Cursor

/-!
# Loops without end

A recording with a loop stands for an endless one: its samples up to the loop's
end, and then those of the loop again and again.  A cursor that goes round the
loop takes its position back by whole lengths, and its neighbours by lengths too.
With positions that are computed exactly, what it reads is what the endless
recording has at the sum of all steps.  Once it may leave the loop it runs on from
where it stands, to the end of the span.
-/

namespace Polyphony.Sound

/-! ## Exact positions -/

/-- How the part of the way to the next sample is rounded to a weight. -/
class Weighing (Position : Type) where
  weigh : Position → Float32

section

variable {Position : Type} [Field Position] [LinearOrder Position]
  [IsStrictOrderedRing Position] [FloorRing Position]

/-- The whole part of a quotient, nearer to zero. -/
def wholePart (quotient : Position) : ℤ :=
  if 0 ≤ quotient then ⌊quotient⌋ else ⌈quotient⌉

/-- Positions of any size and fineness; only weights are rounded. -/
instance (priority := low) exactPositions
    [Weighing Position] :
    PositionArithmetic Position where
  ofIndex := fun index => (index : Position)
  add := fun first second => first + second
  subtract := fun first second => first - second
  remainder := fun dividend divisor =>
    dividend - divisor * wholePart (dividend / divisor)
  reaches := fun first second => decide (second ≤ first)
  index := fun position => ⌊position⌋₊
  weight := Weighing.weigh

end

/-! ## Sequences of samples -/

/-- The samples of a pool, on a scale from -1 to 1, and silence after them. -/
def levels
    (pool : Array Int16)
    (index : Nat) :
    Float32 :=
  match pool[index]? with
  | some sample => Float32.ofInt sample.toInt / 32768
  | none => 0

/-- The endless sequence of a recording whose loop follows upon itself. -/
def unrolled
    (loopStart loopStop : Nat)
    (samples : Nat → Float32)
    (index : Nat) :
    Float32 :=
  if index < loopStop then
    samples index
  else
    samples (loopStart + (index - loopStart) % (loopStop - loopStart))

/-- A sequence up to an index, and silence from there. -/
def ending
    (stop : Nat)
    (samples : Nat → Float32)
    (index : Nat) :
    Float32 :=
  if index < stop then samples index else 0

/-- A loop later there is the same sample. -/
theorem unrolled_add_mul
    {loopStart loopStop index : Nat}
    (apart : loopStart < loopStop)
    (inLoop : loopStart ≤ index)
    (samples : Nat → Float32)
    (turns : Nat) :
    unrolled loopStart loopStop samples
        (index + turns * (loopStop - loopStart)) =
      unrolled loopStart loopStop samples index := by
  have inside {place : Nat} (reached : loopStart ≤ place) :
      unrolled loopStart loopStop samples place =
        samples
          (loopStart + (place - loopStart) % (loopStop - loopStart)) := by
    unfold unrolled
    split
    · rename_i before
      rw [Nat.mod_eq_of_lt (by omega), Nat.add_sub_cancel' reached]
    · rfl
  rw [inside inLoop, inside (inLoop.trans (Nat.le_add_right _ _)),
    Nat.sub_add_comm inLoop, Nat.add_mul_mod_self_right]

namespace Cursor

/-! ## Cursors of any positions -/

section

variable {Position : Type}

/-- A cursor that follows its loop. -/
def circling
    (start stop loopStart loopStop : Nat)
    (position : Position) :
    Cursor Position where
  position := position
  start := start
  stop := stop
  loopStart := loopStart
  loopStop := loopStop
  looping := true
  finished := false

/-- A look-up goes to where the loop leads, and no further than the span. -/
theorem fetch_eq
    (cursor : Cursor Position)
    (pool : Array Int16)
    (index : Nat) :
    cursor.fetch pool index =
      ending cursor.stop (levels pool) (cursor.wrapIndex index) := by
  unfold fetch ending
  dsimp only
  split
  · rename_i past
    rw [if_neg (not_lt.mpr past)]
  · rename_i inside
    rw [if_pos (not_le.mp inside)]
    rfl

/-- The samples that a looping cursor takes are those of the endless recording. -/
theorem fetch_circling
    {start stop loopStart loopStop : Nat}
    (apart : loopStart < loopStop)
    (toStop : loopStop ≤ stop)
    (position : Position)
    (pool : Array Int16) :
    (circling start stop loopStart loopStop position).fetch pool =
      unrolled loopStart loopStop (levels pool) := by
  funext index
  rw [fetch_eq]
  by_cases past : loopStop ≤ index
  · have sameRest :
        (index - loopStart) % (loopStop - loopStart) =
          (index - loopStop) % (loopStop - loopStart) := by
      rw [show index - loopStart =
          (loopStop - loopStart) + (index - loopStop) by omega,
        Nat.add_mod_left]
    have inside :=
      Nat.mod_lt (index - loopStop) (Nat.sub_pos_of_lt apart)
    rw [unrolled, if_neg (not_lt.mpr past), sameRest]
    simp only [wrapIndex, circling, past, decide_true, Bool.and_self, if_true]
    exact if_pos (by omega)
  · rw [unrolled, if_pos (not_le.mp past)]
    simp only [wrapIndex, circling, past, decide_false, Bool.and_false,
      Bool.false_eq_true, if_false]
    exact if_pos (by omega)

/-- Without a loop the samples are those of the span. -/
theorem fetch_straight
    {cursor : Cursor Position}
    (straight : cursor.looping = false)
    (pool : Array Int16) :
    cursor.fetch pool = ending cursor.stop (levels pool) := by
  funext index
  rw [fetch_eq, wrapIndex, straight, Bool.false_and,
    if_neg Bool.false_ne_true]

/-- A loop that has been left is not left again. -/
theorem stopLooping_of_straight
    {cursor : Cursor Position}
    (straight : cursor.looping = false) :
    cursor.stopLooping = cursor := by
  rw [stopLooping, ← straight]

variable [PositionArithmetic Position]

/-- What a series of steps makes of a cursor. -/
def advanceAll
    (steps : List Position)
    (cursor : Cursor Position) :
    Cursor Position :=
  steps.foldl (fun cursor step => cursor.advance step) cursor

@[simp] theorem advanceAll_nil (cursor : Cursor Position) :
    advanceAll [] cursor = cursor :=
  rfl

@[simp] theorem advanceAll_cons
    (step : Position)
    (steps : List Position)
    (cursor : Cursor Position) :
    advanceAll (step :: steps) cursor =
      advanceAll steps (cursor.advance step) :=
  rfl

theorem advanceAll_append
    (earlier later : List Position)
    (cursor : Cursor Position) :
    advanceAll (earlier ++ later) cursor =
      advanceAll later (advanceAll earlier cursor) :=
  List.foldl_append

theorem advanceAll_finished
    {cursor : Cursor Position}
    (finished : cursor.finished = true)
    (steps : List Position) :
    advanceAll steps cursor = cursor := by
  induction steps with
  | nil => rfl
  | cons step rest inductionHypothesis =>
      have rested : cursor.advance step = cursor := by
        rw [advance, if_pos finished]
      rw [advanceAll_cons, rested, inductionHypothesis]

theorem new_eq_circling
    {start stop loopStart loopStop : Nat}
    (fromStart : start ≤ loopStart)
    (apart : loopStart < loopStop)
    (toStop : loopStop ≤ stop) :
    (new start stop (some (loopStart, loopStop)) : Cursor Position) =
      circling start stop loopStart loopStop
        (PositionArithmetic.ofIndex start) := by
  have fitting : fits start stop (loopStart, loopStop) = true := by
    simp [fits, fromStart, apart, toStop]
  have some : ¬ stop ≤ start := by omega
  simp only [new, Option.filter_some, fitting, Option.any_some, if_true,
    Option.getD_some, some, decide_false]
  rfl

end

section

variable {Position : Type} [Field Position] [LinearOrder Position]
  [IsStrictOrderedRing Position] [FloorRing Position]

/-! ## Turns -/

/-- How many times a loop has been played when a distance is reached. -/
def turns
    (loopStart loopStop : Nat)
    (reached : Position) :
    Nat :=
  ⌊(reached - loopStart) / (loopStop - loopStart)⌋₊

/-- Where on a recording the endless one is that its loop makes of it. -/
def wrapped
    (loopStart loopStop : Nat)
    (reached : Position) :
    Position :=
  reached - turns loopStart loopStop reached * (loopStop - loopStart)

variable {loopStart loopStop : Nat} {reached step : Position}

theorem length_pos
    (apart : loopStart < loopStop) :
    (0 : Position) < loopStop - loopStart :=
  sub_pos.mpr (Nat.cast_lt.mpr apart)

theorem turns_eq_zero
    (apart : loopStart < loopStop)
    (before : reached < loopStop) :
    turns loopStart loopStop reached = 0 := by
  rw [turns, Nat.floor_eq_zero, div_lt_one (length_pos apart)]
  exact sub_lt_sub_right before _

theorem wrapped_of_lt
    (apart : loopStart < loopStop)
    (before : reached < loopStop) :
    wrapped loopStart loopStop reached = reached := by
  rw [wrapped, turns_eq_zero apart before, Nat.cast_zero, zero_mul, sub_zero]

theorem wrapped_lt
    (apart : loopStart < loopStop)
    (reached : Position) :
    wrapped loopStart loopStop reached < loopStop := by
  have next := Nat.lt_floor_add_one
    ((reached - loopStart) / (loopStop - loopStart : Position))
  rw [div_lt_iff₀ (length_pos apart)] at next
  unfold wrapped turns
  linarith

theorem loopStart_le_wrapped
    (apart : loopStart < loopStop)
    (inLoop : loopStart ≤ reached) :
    loopStart ≤ wrapped loopStart loopStop reached := by
  have whole := Nat.floor_le
    (div_nonneg (sub_nonneg.mpr inLoop) (length_pos apart).le)
  rw [le_div_iff₀ (length_pos apart)] at whole
  unfold wrapped turns
  linarith

/-- No index before the loop is behind the way back from beyond it. -/
theorem le_wrapped
    {first : Nat}
    (apart : loopStart < loopStop)
    (fromStart : first ≤ loopStart)
    (from_first : first ≤ reached) :
    first ≤ wrapped loopStart loopStop reached := by
  rcases lt_or_ge reached loopStop with before | beyond
  · rwa [wrapped_of_lt apart before]
  · have inLoop : (loopStart : Position) ≤ reached :=
      (Nat.cast_le.mpr apart.le).trans beyond
    exact (Nat.cast_le.mpr fromStart).trans (loopStart_le_wrapped apart inLoop)

theorem wrapped_add_mul
    (apart : loopStart < loopStop)
    (inLoop : loopStart ≤ reached)
    (more : Nat) :
    wrapped loopStart loopStop (reached + more * (loopStop - loopStart)) =
      wrapped loopStart loopStop reached := by
  have split :
      (reached + more * (loopStop - loopStart) - loopStart) /
          (loopStop - loopStart) =
        (reached - loopStart) / (loopStop - loopStart) + more := by
    rw [div_add' _ _ _ (length_pos apart).ne']
    ring
  unfold wrapped turns
  rw [split, Nat.floor_add_natCast
    (div_nonneg (sub_nonneg.mpr inLoop) (length_pos apart).le)]
  push_cast
  ring

/-- A position and the one it wraps to lie alike between samples. -/
theorem floor_wrapped
    (apart : loopStart < loopStop)
    (nonneg : 0 ≤ reached) :
    ⌊wrapped loopStart loopStop reached⌋₊ +
          turns loopStart loopStop reached * (loopStop - loopStart) =
        ⌊reached⌋₊ ∧
      wrapped loopStart loopStop reached -
          (⌊wrapped loopStart loopStop reached⌋₊ : Position) =
        reached - ⌊reached⌋₊ := by
  have wrappedNonneg : 0 ≤ wrapped loopStart loopStop reached := by
    have fromZero := le_wrapped apart (Nat.zero_le loopStart)
      (by rwa [Nat.cast_zero] : ((0 : Nat) : Position) ≤ reached)
    rwa [Nat.cast_zero] at fromZero
  have back :
      wrapped loopStart loopStop reached +
          (turns loopStart loopStop reached * (loopStop - loopStart) : Nat) =
        reached := by
    rw [Nat.cast_mul, Nat.cast_sub apart.le, wrapped]
    ring
  have whole := Nat.floor_add_natCast wrappedNonneg
    (turns loopStart loopStop reached * (loopStop - loopStart))
  rw [back] at whole
  refine ⟨whole.symm, ?_⟩
  rw [whole, Nat.cast_add, ← sub_sub, sub_right_comm]
  exact congrArg (· - _) (eq_sub_of_add_eq back)

/-- It makes no difference whether a step starts on the recording or unrolled. -/
theorem wrapped_wrapped_add
    (apart : loopStart < loopStop)
    (forward : 0 ≤ step) :
    wrapped loopStart loopStop (wrapped loopStart loopStop reached + step) =
      wrapped loopStart loopStop (reached + step) := by
  rcases lt_or_ge reached loopStop with before | beyond
  · rw [wrapped_of_lt apart before]
  · have inLoop : (loopStart : Position) ≤ reached :=
      (Nat.cast_le.mpr apart.le).trans beyond
    have stillInLoop :
        (loopStart : Position) ≤ wrapped loopStart loopStop reached + step :=
      (loopStart_le_wrapped apart inLoop).trans (le_add_of_nonneg_right forward)
    rw [← wrapped_add_mul apart stillInLoop (turns loopStart loopStop reached)]
    congr 1
    unfold wrapped
    ring

/-! ## A cursor in its loop -/

variable [Weighing Position]

variable {start stop : Nat}

/-- A jump leads to where the endless recording has gone. -/
theorem add_remainder_eq_wrapped
    (apart : loopStart < loopStop)
    (inLoop : loopStart ≤ reached) :
    (loopStart : Position) +
        PositionArithmetic.remainder (reached - loopStart)
          ((loopStop : Position) - loopStart) =
      wrapped loopStart loopStop reached := by
  have nonneg :
      0 ≤ (reached - loopStart) / (loopStop - loopStart : Position) :=
    div_nonneg (sub_nonneg.mpr inLoop) (length_pos apart).le
  change (loopStart : Position) +
      (reached - loopStart - (loopStop - loopStart) *
        wholePart ((reached - loopStart) / (loopStop - loopStart))) = _
  rw [wholePart, if_pos nonneg, ← natCast_floor_eq_intCast_floor nonneg,
    wrapped, turns]
  ring

/-- A step in the loop goes as far on the endless recording. -/
theorem advance_circling
    (apart : loopStart < loopStop)
    (forward : 0 ≤ step) :
    (circling start stop loopStart loopStop
        (wrapped loopStart loopStop reached)).advance step =
      circling start stop loopStart loopStop
        (wrapped loopStart loopStop (reached + step)) := by
  rw [← wrapped_wrapped_add apart forward]
  generalize wrapped loopStart loopStop reached = position
  by_cases beyond : (loopStop : Position) ≤ position + step
  · have inLoop : (loopStart : Position) ≤ position + step :=
      (Nat.cast_le.mpr apart.le).trans beyond
    rw [← add_remainder_eq_wrapped apart inLoop]
    simp only [advance, circling, PositionArithmetic.reaches,
      PositionArithmetic.add, PositionArithmetic.ofIndex, beyond]
    rfl
  · rw [wrapped_of_lt apart (not_le.mp beyond)]
    simp only [advance, circling, PositionArithmetic.reaches,
      PositionArithmetic.add, PositionArithmetic.ofIndex, beyond]
    rfl

theorem advanceAll_circling
    (apart : loopStart < loopStop)
    {steps : List Position}
    (forward : ∀ step ∈ steps, 0 ≤ step) :
    advanceAll steps
        (circling start stop loopStart loopStop
          (wrapped loopStart loopStop reached)) =
      circling start stop loopStart loopStop
        (wrapped loopStart loopStop (reached + steps.sum)) := by
  induction steps generalizing reached with
  | nil => rw [List.sum_nil, add_zero, advanceAll, List.foldl_nil]
  | cons step rest inductionHypothesis =>
      obtain ⟨stepForward, restForward⟩ := List.forall_mem_cons.mp forward
      rw [List.sum_cons, ← add_assoc, ← inductionHypothesis restForward,
        ← advance_circling apart stepForward]
      rfl

/-- A new cursor stands where the sum of its steps wraps to. -/
theorem advanceAll_new
    (fromStart : start ≤ loopStart)
    (apart : loopStart < loopStop)
    (toStop : loopStop ≤ stop)
    {steps : List Position}
    (forward : ∀ step ∈ steps, 0 ≤ step) :
    advanceAll steps (new start stop (some (loopStart, loopStop))) =
      circling start stop loopStart loopStop
        (wrapped loopStart loopStop (start + steps.sum)) := by
  have before : (start : Position) < loopStop :=
    Nat.cast_lt.mpr (fromStart.trans_lt apart)
  calc
    advanceAll steps (new start stop (some (loopStart, loopStop))) =
        advanceAll steps
          (circling start stop loopStart loopStop
            (wrapped loopStart loopStop (start : Position))) := by
      rw [new_eq_circling fromStart apart toStop, wrapped_of_lt apart before]
      rfl
    _ = _ := advanceAll_circling apart forward

/-! ## Reads -/

/-- The plain interpolation of a sequence of samples that begins at an index. -/
def interpolated
    (method : Interpolation)
    (first : Nat)
    (samples : Nat → Float32)
    (position : Position) :
    Float32 :=
  let index := ⌊position⌋₊
  let part := Weighing.weigh (position - index)
  match method with
  | .none => samples index
  | .linear =>
      samples index + (samples (index + 1) - samples index) * part
  | .cubic =>
      cubicThrough (samples (max (index - 1) first)) (samples index)
        (samples (index + 1)) (samples (index + 2)) part

omit [IsStrictOrderedRing Position] in
theorem read_eq_interpolated
    {cursor : Cursor Position}
    (unfinished : cursor.finished = false)
    (pool : Array Int16)
    (method : Interpolation) :
    cursor.read pool method =
      interpolated method cursor.start (cursor.fetch pool) cursor.position := by
  rw [read, if_neg (by simp [unfinished])]
  cases method <;> rfl

/-- A sample of the endless recording is the one at the same place of its loop. -/
theorem interpolated_wrapped
    (apart : loopStart < loopStop)
    (nonneg : 0 ≤ reached)
    (first : Nat)
    (samples : Nat → Float32)
    {method : Interpolation}
    (forwardOnly : method ≠ .cubic) :
    interpolated method first (unrolled loopStart loopStop samples)
        (wrapped loopStart loopStop reached) =
      interpolated method first (unrolled loopStart loopStop samples)
        reached := by
  obtain ⟨whole, samePart⟩ := floor_wrapped apart nonneg
  have sameSample (ahead : Nat) :
      unrolled loopStart loopStop samples
          (⌊wrapped loopStart loopStop reached⌋₊ + ahead) =
        unrolled loopStart loopStop samples (⌊reached⌋₊ + ahead) := by
    rcases lt_or_ge reached loopStop with before | beyond
    · rw [wrapped_of_lt apart before]
    · have inLoop : loopStart ≤ ⌊wrapped loopStart loopStop reached⌋₊ :=
        Nat.le_floor (loopStart_le_wrapped apart
          ((Nat.cast_le.mpr apart.le).trans beyond))
      rw [← whole, Nat.add_right_comm,
        unrolled_add_mul apart (inLoop.trans (Nat.le_add_right _ _))]
  cases method with
  | none => exact sameSample 0
  | linear =>
      have sameFirst := sameSample 0
      rw [Nat.add_zero, Nat.add_zero] at sameFirst
      simp only [interpolated, samePart, sameSample 1, sameFirst]
  | cubic => exact absurd rfl forwardOnly

/-! ## A cursor that runs straight -/

omit [IsStrictOrderedRing Position] in
theorem advance_straight
    {cursor : Cursor Position}
    (straight : cursor.looping = false)
    (unfinished : cursor.finished = false)
    (step : Position) :
    cursor.advance step =
      { cursor with
        position := cursor.position + step
        finished :=
          decide ((cursor.stop : Position) ≤ cursor.position + step) } := by
  rw [advance, if_neg (by simp [unfinished])]
  simp only [straight]
  rfl

/-- A cursor that runs straight is finished once it is at the end of its span. -/
theorem advanceAll_straight
    {cursor : Cursor Position}
    {steps : List Position}
    (straight : cursor.looping = false)
    (unfinished : cursor.finished = false)
    (before : cursor.position < cursor.stop)
    (forward : ∀ step ∈ steps, 0 ≤ step) :
    (advanceAll steps cursor).looping = false ∧
      ((advanceAll steps cursor).finished = true ↔
        cursor.stop ≤ cursor.position + steps.sum) ∧
      ((advanceAll steps cursor).finished = false →
        advanceAll steps cursor =
          { cursor with position := cursor.position + steps.sum }) := by
  induction steps generalizing cursor with
  | nil =>
      rw [advanceAll_nil, List.sum_nil, add_zero]
      refine ⟨straight, ?_, fun _ => rfl⟩
      simp [unfinished, before]
  | cons step rest inductionHypothesis =>
      obtain ⟨stepForward, restForward⟩ := List.forall_mem_cons.mp forward
      have moved := advance_straight straight unfinished step
      rw [advanceAll_cons, List.sum_cons, ← add_assoc]
      by_cases atEnd : (cursor.stop : Position) ≤ cursor.position + step
      · have further :
            (cursor.stop : Position) ≤ cursor.position + step + rest.sum :=
          atEnd.trans (le_add_of_nonneg_right (List.sum_nonneg restForward))
        have finished : (cursor.advance step).finished = true := by
          rw [moved]
          exact decide_eq_true atEnd
        rw [advanceAll_finished finished]
        exact ⟨by rw [moved]; exact straight, by simp [finished, further],
          fun unfinished => absurd finished (by simp [unfinished])⟩
      · have onward := inductionHypothesis
          (by rw [moved]; exact straight :
            (cursor.advance step).looping = false)
          (by rw [moved]; exact decide_eq_false atEnd)
          (by rw [moved]; exact not_le.mp atEnd)
          restForward
        rw [moved] at onward ⊢
        obtain ⟨stillStraight, atStop, running⟩ := onward
        refine ⟨stillStraight, atStop, fun unfinished => ?_⟩
        rw [running unfinished, decide_eq_false atEnd]
        exact congrArg _ ‹cursor.finished = false›.symm

/--
Positions being exact, a cursor that follows a loop never finishes, and without
interpolation or with a linear one it reads what the endless recording that its
loop stands for has at the sum of the steps.  Once it has left the loop, at the
position that this sum wraps to, it goes on from there without another jump: it is
finished from the first step that brings it to the end of the span, and until then
it reads the span's samples by any method, and silence for all that follow them.
-/
theorem advanceAll_plays_unrolled
    {steps : List Position}
    (fitting : start ≤ loopStart ∧ loopStart < loopStop ∧ loopStop ≤ stop)
    (forward : ∀ step ∈ steps, 0 ≤ step)
    (pool : Array Int16) :
    let cursor := advanceAll steps (new start stop (some (loopStart, loopStop)))
    let reached := start + steps.sum
    (cursor.finished = false ∧
        cursor.position = wrapped loopStart loopStop reached ∧
        ∀ method ≠ .cubic,
          cursor.read pool method =
            interpolated method start
              (unrolled loopStart loopStop (levels pool)) reached) ∧
      ∀ further : List Position,
        (∀ step ∈ further, 0 ≤ step) →
        let after := advanceAll further cursor.stopLooping
        let position := cursor.position + further.sum
        after.stopLooping = after ∧
          (after.finished = true ↔ stop ≤ position) ∧
          (after.finished = false → after.position = position) ∧
          ∀ method,
            after.read pool method =
              if stop ≤ position then 0
              else interpolated method start (ending stop (levels pool)) position := by
  obtain ⟨fromStart, apart, toStop⟩ := fitting
  intro cursor reached
  have nonneg : 0 ≤ reached :=
    add_nonneg (Nat.cast_nonneg start) (List.sum_nonneg forward)
  have isCursor :
      cursor =
        circling start stop loopStart loopStop
          (wrapped loopStart loopStop reached) :=
    advanceAll_new fromStart apart toStop forward
  rw [isCursor]
  refine ⟨⟨rfl, rfl, fun method forwardOnly => ?_⟩, fun further onward => ?_⟩
  · rw [read_eq_interpolated rfl, fetch_circling apart toStop]
    exact interpolated_wrapped apart nonneg start (levels pool) forwardOnly
  · intro after position
    have before : wrapped loopStart loopStop reached < (stop : Position) :=
      (wrapped_lt apart reached).trans_le (Nat.cast_le.mpr toStop)
    obtain ⟨straight, atEnd, running⟩ :
        after.looping = false ∧
          (after.finished = true ↔ (stop : Position) ≤ position) ∧
          (after.finished = false → after = _) :=
      advanceAll_straight rfl rfl before onward
    refine ⟨stopLooping_of_straight straight, atEnd,
      fun unfinished => by rw [running unfinished]; rfl, fun method => ?_⟩
    split
    · rename_i past
      rw [read, if_pos (atEnd.mpr past)]
    · rename_i inside
      have unfinished : after.finished = false :=
        Bool.eq_false_iff.mpr (mt atEnd.mp inside)
      rw [read_eq_interpolated unfinished, fetch_straight straight,
        running unfinished]
      rfl

/-! ## A ramp -/

/-- A recording that rises from silence. -/
def ramp : Array Int16 :=
  #[0, 4096, 8192, 12288, 16384, 20480, 24576, 28672]

/-- Weights that are the nearest to a part of few digits. -/
abbrev quotientWeights : Weighing ℚ where
  weigh := fun part => Float32.ofInt part.num / Float32.ofNat part.den

/-- Past the seam of its loop, and past three turns, a ramp is read as unrolled. -/
theorem ramp_plays_unrolled :
    let _ : Weighing ℚ := quotientWeights
    let steps : List ℚ := [13 / 2, 9]
    let cursor := advanceAll steps (new 0 8 (some (2, 6)))
    (∀ step ∈ steps, 0 ≤ step) ∧
      cursor.position = 7 / 2 ∧
      cursor.finished = false ∧
      cursor.read ramp .linear =
        interpolated .linear 0 (unrolled 2 6 (levels ramp))
          ((0 : Nat) + steps.sum) ∧
      (advanceAll [4] cursor.stopLooping).finished = false ∧
      (advanceAll [4, 1 / 2] cursor.stopLooping).finished = true := by
  intro _ steps cursor
  have forward : ∀ step ∈ steps, 0 ≤ step := by decide +kernel
  have fitting : 0 ≤ 2 ∧ 2 < 6 ∧ 6 ≤ 8 := by decide
  obtain ⟨⟨unfinished, -, sameReads⟩, onward⟩ :=
    advanceAll_plays_unrolled fitting forward ramp
  obtain ⟨-, notYet, -⟩ := onward [4] (by decide +kernel)
  obtain ⟨-, atEnd, -⟩ := onward [4, 1 / 2] (by decide +kernel)
  exact ⟨forward, by decide +kernel, unfinished, sameReads .linear (by decide),
    Bool.eq_false_iff.mpr (mt notYet.mp (by decide +kernel)),
    atEnd.mpr (by decide +kernel)⟩

end

end Cursor

end Polyphony.Sound
