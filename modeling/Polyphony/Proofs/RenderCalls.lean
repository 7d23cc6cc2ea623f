import Polyphony.Proofs.SplitRendering

namespace Polyphony.Engine

/-!
# Render calls

However a caller wants its frames, alternately in one buffer, scattered into
two, or as a list, they are the same frames and leave the same synthesizer.  The
blocks in which sound is made do not show: a sink is handed all frames in order
and with their numbers, and a place that several frames have takes the last.
-/

open Number (Transcendental)
open Sound (Stereo)

/-! ## Sinks -/

namespace Written

variable {first : Written Buffers} {next last : Buffers → Written Buffers}

theorem andThen_of_none
    (faultless : first.fault? = none)
    (next : Buffers → Written Buffers) :
    first.andThen next = next first.buffers := by
  simp [andThen, faultless]

theorem andThen_of_some
    {fault : BufferFault}
    (faulty : first.fault? = some fault)
    (next : Buffers → Written Buffers) :
    first.andThen next = first := by
  simp [andThen, faulty]

theorem andThen_assoc
    (first : Written Buffers)
    (next last : Buffers → Written Buffers) :
    (first.andThen next).andThen last =
      first.andThen fun buffers => (next buffers).andThen last := by
  cases fault : first.fault? with
  | none => rw [andThen_of_none fault, andThen_of_none fault]
  | some found =>
      rw [andThen_of_some fault, andThen_of_some fault, andThen_of_some fault]

end Written

section Sinks

variable (sink : Nat → Stereo Int16 → Buffers → Written Buffers)

/-- Frames in two parts are handed over one part after the other. -/
theorem deliver_append
    (first : Nat)
    (earlier later : List (Stereo Int16))
    (buffers : Buffers) :
    deliver sink first (earlier ++ later) buffers =
      (deliver sink first earlier buffers).andThen
        (deliver sink (first + earlier.length) later) := by
  induction earlier generalizing first buffers with
  | nil => rfl
  | cons frame rest inductionHypothesis =>
      have shift :
          first + 1 + rest.length = first + (frame :: rest).length := by
        simp only [List.length_cons]
        omega
      simp only [List.cons_append, deliver, Written.andThen_assoc,
        inductionHypothesis, shift]

/-- A sink is handed the frames of all blocks, as if they were one. -/
theorem Synth.renderInto_eq
    [Transcendental]
    (sizes : List Nat)
    (done : Nat)
    (buffers : Buffers)
    (synth : Synth) :
    let delivered := synth.renderInto sink sizes done buffers
    delivered.1 = deliver sink done (synth.renderBlocks sizes).1 buffers ∧
      (delivered.1.fault? = none →
        delivered.2 = (synth.renderBlocks sizes).2) := by
  induction sizes generalizing done buffers synth with
  | nil => exact ⟨rfl, fun _ => rfl⟩
  | cons size rest inductionHypothesis =>
      have count := length_renderBlock size synth
      have parts :=
        deliver_append sink done (synth.renderBlock size).1
          ((synth.renderBlock size).2.renderBlocks rest).1 buffers
      rw [count] at parts
      simp only [renderInto, renderBlocks]
      rw [parts]
      cases delivered : deliver sink done (synth.renderBlock size).1 buffers with
      | mk written fault? =>
          cases fault? with
          | none => exact inductionHypothesis (done + size) written _
          | some fault =>
              refine ⟨rfl, ?_⟩
              intro faultless
              cases faultless

end Sinks

/-! ## Places -/

/--
Values have been written to their places, one after the other: the last of those
that have the same place is there, and what was in no value's place still is.
-/
structure Scattered
    (place : Nat → Nat)
    (values : List Int16)
    (before after : Array Int16) : Prop where
  size : after.size = before.size
  written :
    ∀ (index : Nat) {value : Int16},
      values[index]? = some value →
      (∀ later < values.length, index < later → place later ≠ place index) →
      after[place index]? = some value
  kept :
    ∀ position,
      (∀ index < values.length, place index ≠ position) →
      after[position]? = before[position]?

namespace Scattered

theorem nil
    (place : Nat → Nat)
    (samples : Array Int16) :
    Scattered place [] samples samples where
  size := rfl
  written := by
    intro index value absent
    cases absent
  kept := fun _ _ => rfl

/-- The values that follow are written over what the first has left. -/
theorem cons
    {place : Nat → Nat}
    {value : Int16}
    {values : List Int16}
    {before after : Array Int16}
    (inside : place 0 < before.size)
    (others :
      Scattered (fun index => place (index + 1)) values
        (before.set (place 0) value) after) :
    Scattered place (value :: values) before after where
  size := by rw [others.size, Array.size_set]
  written := by
    intro index other isOther isLast
    cases index with
    | zero =>
        cases isOther
        have spared : ∀ later < values.length, place (later + 1) ≠ place 0 :=
          fun later before =>
            isLast (later + 1) (Nat.succ_lt_succ before) (Nat.succ_pos later)
        rw [others.kept (place 0) spared]
        simp [inside]
    | succ index =>
        apply others.written index isOther
        intro later before isLater
        exact isLast (later + 1) (Nat.succ_lt_succ before)
          (Nat.succ_lt_succ isLater)
  kept := by
    intro position elsewhere
    have first := elsewhere 0 (Nat.succ_pos values.length)
    rw [others.kept position fun index before =>
      elsewhere (index + 1) (Nat.succ_lt_succ before)]
    exact Array.getElem?_set_ne inside first

/-- Values that are written to the front of a buffer leave the rest behind them. -/
theorem toList_eq
    {values : List Int16}
    {before after : Array Int16}
    (scattered : Scattered (fun index => index) values before after) :
    after.toList = values ++ before.toList.drop values.length := by
  apply List.ext_getElem?
  intro position
  rw [Array.getElem?_toList]
  by_cases inside : position < values.length
  · rw [List.getElem?_append_left inside, List.getElem?_eq_getElem inside]
    apply scattered.written position (List.getElem?_eq_getElem inside)
    intro later _ isLater
    exact Nat.ne_of_gt isLater
  · have beyond := Nat.not_lt.mp inside
    rw [List.getElem?_append_right beyond, List.getElem?_drop,
      Nat.add_sub_of_le beyond, Array.getElem?_toList]
    apply scattered.kept position
    intro index before
    omega

end Scattered

/-! ## Writing frames -/

theorem writeSample_of_lt
    {place : Nat}
    {samples : Array Int16}
    (inside : place < samples.size)
    (sample : Int16) :
    writeSample place sample samples = ⟨samples.set place sample, none⟩ := by
  simp [writeSample, inside]

/-- Frames whose places are there are scattered into two buffers. -/
theorem deliver_writeApart
    (leftPlace rightPlace : Nat → Nat)
    {first : Nat}
    {frames : List (Stereo Int16)}
    {left right : Array Int16}
    (leftInside :
      ∀ index < frames.length, leftPlace (first + index) < left.size)
    (rightInside :
      ∀ index < frames.length, rightPlace (first + index) < right.size) :
    ∃ leftAfter rightAfter,
      deliver (writeApart leftPlace rightPlace) first frames ⟨left, right⟩ =
          ⟨⟨leftAfter, rightAfter⟩, none⟩ ∧
        Scattered (fun index => leftPlace (first + index))
          (frames.map (·.left)) left leftAfter ∧
        Scattered (fun index => rightPlace (first + index))
          (frames.map (·.right)) right rightAfter := by
  induction frames generalizing first left right with
  | nil => exact ⟨left, right, rfl, .nil _ left, .nil _ right⟩
  | cons frame rest inductionHypothesis =>
      have shift : ∀ index, first + 1 + index = first + (index + 1) := by
        intro index
        omega
      have leftFirst : leftPlace first < left.size :=
        leftInside 0 (Nat.succ_pos rest.length)
      have rightFirst : rightPlace first < right.size :=
        rightInside 0 (Nat.succ_pos rest.length)
      have firstWritten :
          writeApart leftPlace rightPlace first frame ⟨left, right⟩ =
            ⟨⟨left.set (leftPlace first) frame.left leftFirst,
                right.set (rightPlace first) frame.right rightFirst⟩,
              none⟩ := by
        simp only [writeApart]
        rw [writeSample_of_lt leftFirst, writeSample_of_lt rightFirst]
      have leftRest :
          ∀ index < rest.length,
            leftPlace (first + 1 + index) <
              (left.set (leftPlace first) frame.left).size := by
        intro index before
        rw [Array.size_set, shift]
        exact leftInside (index + 1) (Nat.succ_lt_succ before)
      have rightRest :
          ∀ index < rest.length,
            rightPlace (first + 1 + index) <
              (right.set (rightPlace first) frame.right).size := by
        intro index before
        rw [Array.size_set, shift]
        exact rightInside (index + 1) (Nat.succ_lt_succ before)
      obtain ⟨leftAfter, rightAfter, delivered, leftOthers, rightOthers⟩ :=
        inductionHypothesis leftRest rightRest
      simp only [shift] at leftOthers rightOthers
      refine ⟨leftAfter, rightAfter, ?_, .cons leftFirst leftOthers,
        .cons rightFirst rightOthers⟩
      rw [deliver, firstWritten, Written.andThen_of_none rfl]
      exact delivered

/-- Frames for which there is room are written into one buffer, side by side. -/
theorem deliver_writePair
    {first : Nat}
    {frames : List (Stereo Int16)}
    {samples : Array Int16}
    (inside : 2 * (first + frames.length) ≤ samples.size) :
    ∃ after,
      deliver writePair first frames samples = ⟨after, none⟩ ∧
        Scattered (fun index => 2 * first + index) (interleave frames) samples
          after := by
  induction frames generalizing first samples with
  | nil => exact ⟨samples, rfl, .nil _ samples⟩
  | cons frame rest inductionHypothesis =>
      rw [List.length_cons] at inside
      have leftInside : 2 * first < samples.size := by omega
      have rightInside :
          2 * first + 1 < (samples.set (2 * first) frame.left).size := by
        rw [Array.size_set]
        omega
      have shift :
          ∀ index, 2 * (first + 1) + index = 2 * first + (index + 1 + 1) := by
        intro index
        omega
      have firstWritten :
          writePair first frame samples =
            ⟨(samples.set (2 * first) frame.left).set (2 * first + 1)
              frame.right, none⟩ := by
        rw [writePair, writeSample_of_lt leftInside,
          Written.andThen_of_none rfl, writeSample_of_lt rightInside]
      have restInside :
          2 * (first + 1 + rest.length) ≤
            ((samples.set (2 * first) frame.left).set (2 * first + 1)
              frame.right).size := by
        simp only [Array.size_set]
        omega
      obtain ⟨after, delivered, others⟩ := inductionHypothesis restInside
      simp only [shift] at others
      refine ⟨after, ?_, .cons leftInside (.cons rightInside others)⟩
      rw [deliver, firstWritten, Written.andThen_of_none rfl]
      exact delivered

/-! ## Interleaved frames -/

theorem interleave_cons
    (frame : Stereo Int16)
    (rest : List (Stereo Int16)) :
    interleave (frame :: rest) =
      frame.left :: frame.right :: interleave rest := by
  rfl

theorem length_interleave (frames : List (Stereo Int16)) :
    (interleave frames).length = 2 * frames.length := by
  induction frames with
  | nil => rfl
  | cons frame rest inductionHypothesis =>
      rw [interleave_cons, List.length_cons, List.length_cons,
        inductionHypothesis, List.length_cons]
      omega

/-- The two samples of a frame stand where its number says. -/
theorem getElem?_interleave
    (frames : List (Stereo Int16))
    (index : Nat) :
    (interleave frames)[2 * index]? = frames[index]?.map (·.left) ∧
      (interleave frames)[2 * index + 1]? = frames[index]?.map (·.right) := by
  induction frames generalizing index with
  | nil => exact ⟨rfl, rfl⟩
  | cons frame rest inductionHypothesis =>
      cases index with
      | zero => exact ⟨rfl, rfl⟩
      | succ index => exact inductionHypothesis index

namespace StridedBuffer

/-- Whether all of some frames have their places in the buffer. -/
def Fits
    (frames : Nat)
    (buffer : StridedBuffer) : Prop :=
  ∀ index < frames, buffer.indexOf index < buffer.samples.size

instance (frames : Nat) (buffer : StridedBuffer) :
    Decidable (buffer.Fits frames) :=
  Nat.decidableBallLT frames fun index _ =>
    buffer.indexOf index < buffer.samples.size

/-- The last frame has its place in the buffer exactly if all frames have. -/
theorem hasRoomFor_iff
    {frames : Nat}
    (some : frames ≠ 0)
    (buffer : StridedBuffer) :
    buffer.hasRoomFor frames ↔ buffer.Fits frames := by
  rw [hasRoomFor, decide_eq_true_iff]
  constructor
  · intro room index before
    refine Nat.lt_of_le_of_lt (Nat.add_le_add_left ?_ buffer.offset) room
    exact Nat.mul_le_mul_right buffer.stride (Nat.le_sub_one_of_lt before)
  · intro fits
    exact fits (frames - 1) (Nat.sub_one_lt some)

end StridedBuffer

namespace Synth

variable [Transcendental]

/-! ## Calls -/

theorem length_renderBlocks
    (sizes : List Nat)
    (synth : Synth) :
    (synth.renderBlocks sizes).1.length = sizes.sum := by
  induction sizes generalizing synth with
  | nil => rfl
  | cons size rest inductionHypothesis =>
      simp only [renderBlocks, List.length_append, length_renderBlock,
        inductionHypothesis, List.sum_cons]

theorem length_render
    (frames : Nat)
    (synth : Synth) :
    (synth.render frames).1.length = frames := by
  rw [render, length_renderBlocks, sum_blockSizes]

/-- A buffer gets the frames that it has room for, and keeps what is left over. -/
theorem renderInterleaved_eq
    {frames : Nat}
    {samples : Array Int16}
    (room : samples.size / 2 = frames)
    (synth : Synth) :
    ∃ after,
      synth.renderInterleaved samples =
          (⟨after, none⟩, (synth.render frames).2) ∧
        after.size = samples.size ∧
        after.toList =
          interleave (synth.render frames).1 ++
            samples.toList.drop (2 * frames) := by
  have count := length_render frames synth
  have inside : 2 * (0 + (synth.render frames).1.length) ≤ samples.size := by
    rw [count]
    omega
  obtain ⟨after, delivered, scattered⟩ := deliver_writePair inside
  obtain ⟨written, last⟩ :=
    renderInto_eq writePair (blockSizes frames) 0 samples synth
  rw [renderInterleaved, room]
  have shape := written.trans delivered
  refine ⟨after, Prod.ext shape (last (congrArg Written.fault? shape)),
    scattered.size, ?_⟩
  simp only [Nat.mul_zero, Nat.zero_add] at scattered
  rw [scattered.toList_eq, length_interleave, count]

/-- The samples of every frame stand side by side in the buffer. -/
theorem renderInterleaved_samples
    {frames : Nat}
    {samples after : Array Int16}
    {synth : Synth}
    (contents :
      after.toList =
        interleave (synth.render frames).1 ++
          samples.toList.drop (2 * frames)) :
    (∀ (index : Nat) (frame : Stereo Int16),
      (synth.render frames).1[index]? = some frame →
      after[2 * index]? = some frame.left ∧
        after[2 * index + 1]? = some frame.right) ∧
      ∀ position,
        2 * frames ≤ position →
        after[position]? = samples[position]? := by
  have long : (interleave (synth.render frames).1).length = 2 * frames := by
    rw [length_interleave, length_render]
  constructor
  · intro index frame present
    have before := (List.getElem?_eq_some_iff.mp present).1
    rw [length_render] at before
    obtain ⟨isLeft, isRight⟩ := getElem?_interleave (synth.render frames).1 index
    rw [present] at isLeft isRight
    rw [← Array.getElem?_toList, ← Array.getElem?_toList, contents,
      List.getElem?_append_left (by omega),
      List.getElem?_append_left (by omega)]
    exact ⟨isLeft, isRight⟩
  · intro position beyond
    rw [← Array.getElem?_toList, contents,
      List.getElem?_append_right (by omega), List.getElem?_drop, long,
      Nat.add_sub_of_le beyond, Array.getElem?_toList]

/-- Two samples that stand side by side are those of a frame. -/
theorem frame_of_samples
    {frames : Nat}
    {samples after : Array Int16}
    {synth : Synth}
    (contents :
      after.toList =
        interleave (synth.render frames).1 ++
          samples.toList.drop (2 * frames))
    {index : Nat}
    (inside : index < frames)
    {left right : Int16}
    (isLeft : after[2 * index]? = some left)
    (isRight : after[2 * index + 1]? = some right) :
    (synth.render frames).1[index]? = some ⟨left, right⟩ := by
  rw [← length_render frames synth] at inside
  have present := List.getElem?_eq_getElem inside
  obtain ⟨sameLeft, sameRight⟩ :=
    (renderInterleaved_samples contents).1 index _ present
  rw [isLeft] at sameLeft
  rw [isRight] at sameRight
  rw [present]
  cases sameLeft
  cases sameRight
  rfl

/-- Two buffers that have all places get all frames, and others are left alone. -/
theorem renderPlanar_cases
    (frames : Nat)
    (left right : StridedBuffer)
    (synth : Synth) :
    let rendered := synth.render frames
    let planar := synth.renderPlanar frames left right
    (left.Fits frames ∧ right.Fits frames ∧
        ∃ leftAfter rightAfter,
          planar = (⟨⟨leftAfter, rightAfter⟩, none⟩, rendered.2) ∧
            Scattered left.indexOf (rendered.1.map (·.left)) left.samples
              leftAfter ∧
            Scattered right.indexOf (rendered.1.map (·.right)) right.samples
              rightAfter) ∨
      (¬ left.Fits frames ∧
        planar =
          (⟨⟨left.samples, right.samples⟩, some (.leftTooSmall frames)⟩,
            synth)) ∨
      (left.Fits frames ∧ ¬ right.Fits frames ∧
        planar =
          (⟨⟨left.samples, right.samples⟩, some (.rightTooSmall frames)⟩,
            synth)) := by
  intro rendered planar
  by_cases some : frames = 0
  · subst frames
    refine .inl ⟨fun _ before => absurd before (Nat.not_lt_zero _),
      fun _ before => absurd before (Nat.not_lt_zero _),
      left.samples, right.samples, rfl, .nil _ _, .nil _ _⟩
  · have roomy := fun buffer : StridedBuffer => buffer.hasRoomFor_iff some
    have planarShape : planar =
        (if !left.hasRoomFor frames then
          (⟨⟨left.samples, right.samples⟩, .some (.leftTooSmall frames)⟩, synth)
        else if !right.hasRoomFor frames then
          (⟨⟨left.samples, right.samples⟩, .some (.rightTooSmall frames)⟩, synth)
        else
          synth.renderInto (writeApart left.indexOf right.indexOf)
            (blockSizes frames) 0 ⟨left.samples, right.samples⟩) :=
      if_neg some
    by_cases leftFits : left.Fits frames
    · have leftRoom := (roomy left).mpr leftFits
      by_cases rightFits : right.Fits frames
      · have rightRoom := (roomy right).mpr rightFits
        have count : rendered.1.length = frames := length_render frames synth
        have inside :
            ∀ buffer : StridedBuffer,
              buffer.Fits frames →
              ∀ index < rendered.1.length,
                buffer.indexOf (0 + index) < buffer.samples.size := by
          intro buffer fits index before
          rw [Nat.zero_add]
          exact fits index (count ▸ before)
        obtain ⟨leftAfter, rightAfter, delivered, scattered⟩ :=
          deliver_writeApart left.indexOf right.indexOf (inside left leftFits)
            (inside right rightFits)
        simp only [Nat.zero_add] at scattered
        obtain ⟨written, last⟩ :=
          renderInto_eq (writeApart left.indexOf right.indexOf)
            (blockSizes frames) 0 ⟨left.samples, right.samples⟩ synth
        simp only [leftRoom, rightRoom] at planarShape
        have shape : planar.1 = ⟨⟨leftAfter, rightAfter⟩, none⟩ := by
          rw [planarShape]
          exact written.trans delivered
        refine .inl ⟨leftFits, rightFits, leftAfter, rightAfter,
          Prod.ext shape ?_, scattered⟩
        rw [planarShape] at shape ⊢
        exact last (congrArg Written.fault? shape)
      · have noRoom := mt (roomy right).mp rightFits
        refine .inr (.inr ⟨leftFits, rightFits, ?_⟩)
        simpa [leftRoom, noRoom] using planarShape
    · have noRoom := mt (roomy left).mp leftFits
      refine .inr (.inl ⟨leftFits, ?_⟩)
      simpa [noRoom] using planarShape

/-- The fault of a call tells which buffer lacks a place, of the two the left. -/
theorem renderPlanar_fault?
    (frames : Nat)
    (left right : StridedBuffer)
    (synth : Synth) :
    (synth.renderPlanar frames left right).1.fault? =
      if ¬ left.Fits frames then
        some (.leftTooSmall frames)
      else if ¬ right.Fits frames then
        some (.rightTooSmall frames)
      else
        none := by
  rcases synth.renderPlanar_cases frames left right with
    ⟨leftFits, rightFits, leftAfter, rightAfter, shape, -⟩ |
      ⟨leftLacks, shape⟩ | ⟨leftFits, rightLacks, shape⟩
  · rw [shape, if_neg (not_not_intro leftFits),
      if_neg (not_not_intro rightFits)]
  · rw [shape, if_pos leftLacks]
  · rw [shape, if_neg (not_not_intro leftFits), if_pos rightLacks]

/-- A call that has a fault, or is for no frames, changes nothing. -/
theorem renderPlanar_unchanged
    {frames : Nat}
    {left right : StridedBuffer}
    {synth : Synth}
    (nothing :
      (synth.renderPlanar frames left right).1.fault? ≠ none ∨ frames = 0) :
    (synth.renderPlanar frames left right).1.buffers =
        ⟨left.samples, right.samples⟩ ∧
      (synth.renderPlanar frames left right).2 = synth := by
  rcases nothing with faulty | none
  · rcases synth.renderPlanar_cases frames left right with
      ⟨-, -, leftAfter, rightAfter, shape, -⟩ | ⟨-, shape⟩ | ⟨-, -, shape⟩
    · rw [shape] at faulty
      exact absurd rfl faulty
    · rw [shape]
      exact ⟨rfl, rfl⟩
    · rw [shape]
      exact ⟨rfl, rfl⟩
  · rw [renderPlanar, if_pos none]
    exact ⟨rfl, rfl⟩

end Synth

end Polyphony.Engine
