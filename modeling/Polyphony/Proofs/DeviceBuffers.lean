import Polyphony.Output.Filling
import Polyphony.Proofs.RenderCalls

namespace Polyphony.Output

/-!
# Device buffers

A device's buffer is filled block by block, through a stereo buffer that is as
long as the longest block.  Every block but the last is as long as a block of
sound, so the whole buffer gets what one rendering gives, each frame spread over
the channels of the device.
-/

open Engine (Synth blockSize blockSizes interleave)
open Number (Transcendental)
open Sound (Stereo)

/-! ## Pieces -/

theorem length_cutExact
    (size : Nat)
    (whole : List Entry) :
    (cutExact size whole).length = whole.length / size := by
  simp [cutExact]

/-- The pieces of a size have that size. -/
theorem length_of_mem_cutExact
    {size : Nat}
    {whole piece : List Entry}
    (member : piece ∈ cutExact size whole) :
    piece.length = size := by
  obtain ⟨position, inRange, rfl⟩ := List.mem_map.mp member
  have before : position < whole.length / size := List.mem_range.mp inRange
  have room : (position + 1) * size ≤ whole.length :=
    (Nat.mul_le_mul_right size before).trans (Nat.div_mul_le_self _ _)
  rw [Nat.succ_mul] at room
  rw [List.length_take, List.length_drop]
  omega

/-- A list begins with its first piece. -/
theorem cutExact_append
    {size : Nat}
    (positive : 0 < size)
    {piece : List Entry}
    (full : piece.length = size)
    (rest : List Entry) :
    cutExact size (piece ++ rest) = piece :: cutExact size rest := by
  have count : (piece ++ rest).length / size = rest.length / size + 1 := by
    rw [List.length_append, full, Nat.add_comm, Nat.add_div_right _ positive]
  rw [cutExact, count, List.range_succ_eq_map, List.map_cons, List.map_map]
  congr 1
  · rw [Nat.zero_mul, List.drop_zero, List.take_left' full]
  · apply List.map_congr_left
    intro position _
    have later : position.succ * size = piece.length + position * size := by
      rw [Nat.succ_mul, full, Nat.add_comm]
    simp only [Function.comp_apply]
    rw [later, List.drop_append, Nat.add_sub_cancel_left,
      List.drop_eq_nil_of_le (Nat.le_add_right _ _), List.nil_append]

/-- The pairs of interleaved frames are the frames. -/
theorem cutExact_interleave (frames : List (Stereo Int16)) :
    cutExact 2 (interleave frames) =
      frames.map fun frame => [frame.left, frame.right] := by
  induction frames with
  | nil => rfl
  | cons frame rest inductionHypothesis =>
      have first :=
        cutExact_append (Nat.succ_pos 1)
          (rfl : [frame.left, frame.right].length = 2) (interleave rest)
      rw [List.map_cons, ← inductionHypothesis]
      exact first

theorem cut_nil
    {size : Nat}
    (positive : 0 < size) :
    cut size ([] : List Entry) = [] := by
  have count : (0 + size - 1) / size = 0 :=
    Nat.div_eq_of_lt (by omega)
  rw [cut, List.length_nil, count]
  rfl

/-- What is not longer than one piece is one piece, if it is anything. -/
theorem cut_of_le
    {size : Nat}
    {whole : List Entry}
    (some : whole ≠ [])
    (fits : whole.length ≤ size) :
    cut size whole = [whole] := by
  have positive := List.length_pos_iff.mpr some
  have count : (whole.length + size - 1) / size = 1 := by
    apply Nat.div_eq_of_lt_le <;> omega
  rw [cut, count]
  simp [fits]

/-- What is longer than a piece is that piece, and the pieces of the rest. -/
theorem cut_of_ge
    {size : Nat}
    (positive : 0 < size)
    {whole : List Entry}
    (long : size ≤ whole.length) :
    cut size whole = whole.take size :: cut size (whole.drop size) := by
  have count :
      (whole.length + size - 1) / size =
        ((whole.drop size).length + size - 1) / size + 1 := by
    rw [List.length_drop, ← Nat.add_div_right _ positive]
    congr 1
    omega
  rw [cut, count, List.range_succ_eq_map, List.map_cons, List.map_map]
  congr 1
  · simp
  · apply List.map_congr_left
    intro position _
    simp [List.drop_drop, Nat.succ_mul, Nat.add_comm]

/-! ## Frames of a device -/

/-- The mean of both sides is that of their values, since it cannot overflow. -/
theorem toInt_mono (frame : Stereo Int16) :
    (mono frame).toInt = (frame.left.toInt + frame.right.toInt).tdiv 2 := by
  have leftBelow := frame.left.toInt_lt
  have rightBelow := frame.right.toInt_lt
  have leftAbove := frame.left.le_toInt
  have rightAbove := frame.right.le_toInt
  have between :
      -2 ^ 15 ≤ (frame.left.toInt + frame.right.toInt).tdiv 2 ∧
        (frame.left.toInt + frame.right.toInt).tdiv 2 < 2 ^ 15 := by
    rw [Int.tdiv_eq_ediv, show Int.sign 2 = 1 from rfl]
    split <;> omega
  rw [mono, Int16.toInt_ofInt]
  exact Int.bmod_eq_of_le between.1 between.2

variable {Sample : Type} [DeviceSample Sample]

/-- The samples of a frame for a device of some channels. -/
def spread
    (channels : Nat)
    (frame : Stereo Int16) :
    List Sample :=
  if channels = 1 then
    [DeviceSample.ofSample (mono frame)]
  else
    DeviceSample.ofSample frame.left :: DeviceSample.ofSample frame.right ::
      List.replicate (channels - 2) DeviceSample.equilibrium

theorem length_spread
    {channels : Nat}
    (positive : 0 < channels)
    (frame : Stereo Int16) :
    (spread channels frame : List Sample).length = channels := by
  unfold spread
  split
  · rename_i isMono
    exact isMono.symm
  · simp only [List.length_cons, List.length_replicate]
    omega

/-- A frame of a device gets the samples that are meant for it. -/
theorem fillFrame?_eq
    {channels : Nat}
    (positive : 0 < channels)
    {old : List Sample}
    (whole : old.length = channels)
    (frame : Stereo Int16) :
    fillFrame? channels old [frame.left, frame.right] =
      some (spread channels frame) := by
  match old, whole with
  | [], whole =>
      subst whole
      cases positive
  | [first], whole =>
      subst whole
      rfl
  | first :: second :: others, whole =>
      have several : channels ≠ 1 := by
        rw [← whole]
        simp
      have count : channels - 2 = others.length := by
        rw [← whole]
        rfl
      simp [fillFrame?, spread, several, count, List.map_const']

/-- All frames of a device get the samples that are meant for them. -/
theorem fillFrames?_eq
    {channels : Nat}
    (positive : 0 < channels)
    {olds : List (List Sample)}
    (whole : ∀ old ∈ olds, old.length = channels)
    {frames : List (Stereo Int16)}
    (sameCount : olds.length = frames.length) :
    fillFrames? channels olds
        (frames.map fun frame => [frame.left, frame.right]) =
      some (frames.map (spread channels)) := by
  induction frames generalizing olds with
  | nil =>
      rw [List.eq_nil_of_length_eq_zero sameCount]
      rfl
  | cons frame rest inductionHypothesis =>
      match olds, sameCount with
      | old :: others, sameCount =>
          rw [List.forall_mem_cons] at whole
          have first := fillFrame?_eq positive whole.1 frame
          have later := inductionHypothesis whole.2 (Nat.succ.inj sameCount)
          simp [fillFrames?, first, later]

/-- The samples of every frame stand where its number says. -/
theorem getElem?_flatten_spread
    {channels : Nat}
    (positive : 0 < channels)
    {frames : List (Stereo Int16)}
    {index : Nat}
    {frame : Stereo Int16}
    (present : frames[index]? = some frame)
    {offset : Nat}
    (inside : offset < channels) :
    (frames.map (spread channels)).flatten[index * channels + offset]? =
      (spread channels frame : List Sample)[offset]? := by
  induction frames generalizing index with
  | nil => cases present
  | cons first rest inductionHypothesis =>
      have length : (spread channels first : List Sample).length = channels :=
        length_spread positive first
      rw [List.map_cons, List.flatten_cons]
      cases index with
      | zero =>
          cases present
          rw [Nat.zero_mul, Nat.zero_add,
            List.getElem?_append_left (length.symm ▸ inside)]
      | succ index =>
          have later :
              (index + 1) * channels + offset =
                channels + (index * channels + offset) := by
            rw [Nat.succ_mul]
            omega
          rw [later, List.getElem?_append_right (by omega), length,
            Nat.add_sub_cancel_left]
          exact inductionHypothesis present

theorem length_flatten_spread
    {channels : Nat}
    (positive : 0 < channels)
    (frames : List (Stereo Int16)) :
    ((frames.map (spread channels)).flatten : List Sample).length =
      frames.length * channels := by
  induction frames with
  | nil => simp
  | cons frame rest inductionHypothesis =>
      rw [List.map_cons, List.flatten_cons, List.length_append,
        inductionHypothesis, length_spread positive, List.length_cons,
        Nat.succ_mul, Nat.add_comm]

/-! ## Blocks of a device -/

theorem size_stereoBuffer : stereoBuffer.size = blockSize * 2 :=
  Array.size_replicate

/-- What a device's buffer holds once some frames were spread over its front. -/
def covered
    (channels : Nat)
    (frames : List (Stereo Int16))
    (buffer : List Sample) :
    List Sample :=
  (frames.map (spread channels)).flatten ++
    buffer.drop (frames.length * channels)

section Covered

variable {channels : Nat} {frames : List (Stereo Int16)} {buffer : List Sample}

/-- As many frames as there is room for take up whole frames of the buffer. -/
theorem length_flatten_of_le
    (inside : frames.length ≤ buffer.length / channels) :
    ((frames.map (spread channels)).flatten : List Sample).length =
      frames.length * channels := by
  rcases Nat.eq_zero_or_pos channels with none | positive
  · subst none
    rw [Nat.div_zero, Nat.le_zero, List.length_eq_zero_iff] at inside
    rw [inside]
    rfl
  · exact length_flatten_spread positive frames

theorem length_covered
    (inside : frames.length ≤ buffer.length / channels) :
    (covered channels frames buffer).length = buffer.length := by
  have room : frames.length * channels ≤ buffer.length :=
    (Nat.mul_le_mul_right channels inside).trans (Nat.div_mul_le_self _ _)
  rw [covered, List.length_append, length_flatten_of_le inside,
    List.length_drop, Nat.add_sub_of_le room]

/-- What is covered by a frame is what the frame is spread to. -/
theorem getElem?_covered
    {index offset : Nat}
    {frame : Stereo Int16}
    (present : frames[index]? = some frame)
    (inside : offset < channels)
    (buffer : List Sample) :
    (covered channels frames buffer)[index * channels + offset]? =
      (spread channels frame)[offset]? := by
  have positive : 0 < channels := Nat.zero_lt_of_lt inside
  have before : (index + 1) * channels ≤ frames.length * channels :=
    Nat.mul_le_mul_right channels (List.getElem?_eq_some_iff.mp present).1
  rw [Nat.succ_mul] at before
  rw [covered, List.getElem?_append_left, getElem?_flatten_spread positive
    present inside]
  rw [length_flatten_spread positive]
  omega

/-- What is behind the frames is as it was. -/
theorem getElem?_covered_of_ge
    (inside : frames.length ≤ buffer.length / channels)
    {position : Nat}
    (behind : frames.length * channels ≤ position) :
    (covered channels frames buffer)[position]? = buffer[position]? := by
  have length := length_flatten_of_le inside
  rw [covered, List.getElem?_append_right (length ▸ behind), length,
    List.getElem?_drop, Nat.add_sub_of_le behind]

end Covered

/-- A front that is covered to its end, and then the rest, are the whole. -/
theorem covered_append
    (channels : Nat)
    (earlier later : List (Stereo Int16))
    (buffer : List Sample) :
    covered channels earlier (buffer.take (earlier.length * channels)) ++
        covered channels later (buffer.drop (earlier.length * channels)) =
      covered channels (earlier ++ later) buffer := by
  have nothingLeft :
      (buffer.take (earlier.length * channels)).drop
        (earlier.length * channels) = [] :=
    List.drop_eq_nil_of_le (List.length_take_le _ _)
  simp only [covered, nothingLeft, List.append_nil, List.drop_drop,
    List.map_append, List.flatten_append, List.append_assoc,
    List.length_append, Nat.add_mul]

variable [Transcendental]

/-- A block gets the frames of one rendering, through any stereo buffer. -/
theorem fillBlock?_eq
    {channels : Nat}
    (positive : 0 < channels)
    {block : List Sample}
    {stereo : Array Int16}
    (room : block.length / channels * 2 ≤ stereo.size)
    (synth : Synth) :
    let rendered := synth.render (block.length / channels)
    ∃ after,
      after.size = stereo.size ∧
        fillBlock? channels stereo block synth =
          some ⟨covered channels rendered.1 block, after, rendered.2⟩ := by
  intro rendered
  have count : rendered.1.length = block.length / channels :=
    Synth.length_render _ synth
  have front : (stereo.extract 0 (block.length / channels * 2)).size / 2 =
      block.length / channels := by
    rw [Array.size_extract]
    omega
  obtain ⟨written, shape, size, contents⟩ := synth.renderInterleaved_eq front
  have pairs : written.toList = interleave rendered.1 := by
    rw [contents, List.drop_eq_nil_of_le, List.append_nil]
    simp
    omega
  have frames :
      fillFrames? channels (cutExact channels block)
          (cutExact 2 written.toList) =
        some (rendered.1.map (spread channels)) := by
    rw [pairs, cutExact_interleave]
    apply fillFrames?_eq positive
    · intro old member
      exact length_of_mem_cutExact member
    · rw [length_cutExact, count]
  refine ⟨written ++ stereo.extract (block.length / channels * 2) stereo.size,
    ?_, ?_⟩
  · rw [Array.size_append, size, Array.size_extract, Array.size_extract]
    omega
  · simp only [fillBlock?, if_pos room, shape]
    simp [frames, covered, count, rendered]

/-- A rendering that is longer than a block begins with a full block. -/
theorem render_add_blockSize
    (frames : Nat)
    (synth : Synth) :
    let first := synth.render blockSize
    synth.render (blockSize + frames) =
      (first.1 ++ (first.2.render frames).1, (first.2.render frames).2) := by
  have positive : 0 < blockSize := Nat.succ_pos _
  have sizes :
      blockSizes (blockSize + frames) =
        blockSizes blockSize ++ blockSizes frames := by
    rw [blockSizes, blockSizes, blockSizes, Nat.add_comm,
      Nat.add_div_right _ positive, Nat.add_mod_right, Nat.div_self positive,
      Nat.mod_self, List.replicate_succ]
    rfl
  intro first
  rw [Synth.render, sizes, Synth.renderBlocks_append]
  rfl

/-- What is shorter than a block is one block, or none. -/
theorem fillBlocks?_of_lt
    {channels : Nat}
    (positive : 0 < channels)
    {stereo : Array Int16}
    (room : stereo.size = blockSize * 2)
    {buffer : List Sample}
    (short : buffer.length < blockSize * channels)
    (synth : Synth) :
    let rendered := synth.render (buffer.length / channels)
    ∃ after,
      after.size = blockSize * 2 ∧
        fillBlocks? channels stereo (cut (blockSize * channels) buffer) synth =
          some ⟨covered channels rendered.1 buffer, after, rendered.2⟩ := by
  intro rendered
  have blockPositive : 0 < blockSize * channels :=
    Nat.zero_lt_of_lt short
  by_cases nothing : buffer = []
  · subst nothing
    have count : ([] : List Sample).length / channels = 0 := Nat.zero_div _
    have silent : synth.render 0 = ([], synth) := rfl
    refine ⟨stereo, room, ?_⟩
    rw [cut_nil blockPositive]
    simp only [rendered, count, silent]
    simp [fillBlocks?, covered]
  · have lastRoom : buffer.length / channels * 2 ≤ stereo.size := by
      have fewer := (Nat.div_lt_iff_lt_mul positive).mpr short
      rw [room]
      omega
    obtain ⟨after, afterRoom, last⟩ := fillBlock?_eq positive lastRoom synth
    refine ⟨after, afterRoom.trans room, ?_⟩
    rw [cut_of_le nothing (Nat.le_of_lt short)]
    simp [fillBlocks?, last, rendered]

/-- All blocks together get the frames of one rendering. -/
theorem fillBlocks?_eq
    {channels : Nat}
    (positive : 0 < channels)
    {stereo : Array Int16}
    (room : stereo.size = blockSize * 2)
    (buffer : List Sample)
    (synth : Synth) :
    let rendered := synth.render (buffer.length / channels)
    ∃ after,
      after.size = blockSize * 2 ∧
        fillBlocks? channels stereo (cut (blockSize * channels) buffer) synth =
          some ⟨covered channels rendered.1 buffer, after, rendered.2⟩ := by
  intro rendered
  have blockPositive : 0 < blockSize * channels :=
    Nat.mul_pos (Nat.succ_pos _) positive
  by_cases long : blockSize * channels ≤ buffer.length
  · -- The first block is full, and the blocks of the rest fill the rest.
    have full :
        (buffer.take (blockSize * channels)).length / channels = blockSize := by
      rw [List.length_take, Nat.min_eq_left long,
        Nat.mul_div_cancel _ positive]
    have firstRoom :
        (buffer.take (blockSize * channels)).length / channels * 2 ≤
          stereo.size := by
      rw [full, room]
    obtain ⟨middle, middleRoom, first⟩ := fillBlock?_eq positive firstRoom synth
    obtain ⟨after, afterRoom, others⟩ :=
      fillBlocks?_eq positive (middleRoom.trans room)
        (buffer.drop (blockSize * channels)) (synth.render blockSize).2
    have count :
        buffer.length / channels =
          blockSize +
            (buffer.drop (blockSize * channels)).length / channels := by
      rw [List.length_drop, Nat.add_comm, ← Nat.add_mul_div_right _ _ positive,
        Nat.sub_add_cancel long]
    have whole :=
      render_add_blockSize
        ((buffer.drop (blockSize * channels)).length / channels) synth
    rw [← count] at whole
    have joined :=
      covered_append channels (synth.render blockSize).1
        ((synth.render blockSize).2.render
          ((buffer.drop (blockSize * channels)).length / channels)).1
        buffer
    rw [Synth.length_render] at joined
    refine ⟨after, afterRoom, ?_⟩
    simp only [full] at first
    simp only [rendered, whole, ← joined, cut_of_ge blockPositive long]
    simp [fillBlocks?, first, others]
  · exact fillBlocks?_of_lt positive room (Nat.not_le.mp long) synth
termination_by buffer.length
decreasing_by
  rw [List.length_drop]
  omega

/-- A buffer gets one rendering; a device without channels gets none. -/
theorem fill?_eq
    (channels : Nat)
    {stereo : Array Int16}
    (room : stereo.size = blockSize * 2)
    (buffer : List Sample)
    (synth : Synth) :
    let rendered := synth.render (buffer.length / channels)
    ∃ after,
      after.size = blockSize * 2 ∧
        fill? channels stereo buffer synth =
          some ⟨covered channels rendered.1 buffer, after, rendered.2⟩ ∧
        (channels = 0 → after = stereo) := by
  intro rendered
  by_cases none : channels = 0
  · subst none
    have silent : rendered = ([], synth) := by
      simp only [rendered, Nat.div_zero]
      rfl
    refine ⟨stereo, room, ?_, fun _ => rfl⟩
    rw [fill?, if_pos rfl, silent]
    rfl
  · obtain ⟨after, afterRoom, filled⟩ :=
      fillBlocks?_eq (Nat.pos_of_ne_zero none) room buffer synth
    refine ⟨after, afterRoom, ?_, fun isNone => absurd isNone none⟩
    rw [fill?, if_neg none]
    exact filled

/--
A device's buffer is always filled, whatever the stereo buffer holds that goes
with it.  It gets the frames of one interleaved rendering, as many as it has
room for, and the synthesizer is left as by that: a device of one channel gets
their means, which are samples, one of more channels gets both sides and then
silence.  What makes no whole frame stays, and without channels all does.
-/
theorem fill_delivers_the_stream
    (channels : Nat)
    (stereo : Vector Int16 (blockSize * 2))
    (buffer : List Sample)
    (synth : Synth) :
    let count := buffer.length / channels
    let whole := synth.renderInterleaved (Array.replicate (count * 2) 0)
    let samples := whole.1.buffers
    ∃ filled,
      fill? channels stereo.toArray buffer synth = some filled ∧
        filled.stereo.size = blockSize * 2 ∧
        (whole.1.fault? = none ∧
          samples.size = count * 2 ∧
          filled.synth = whole.2) ∧
        filled.buffer.length = buffer.length ∧
        (∀ (index : Nat) (left right : Int16),
          samples[2 * index]? = some left →
          samples[2 * index + 1]? = some right →
          (channels = 1 →
            (mono ⟨left, right⟩).toInt =
                (left.toInt + right.toInt).tdiv 2 ∧
              filled.buffer[index]? =
                some (DeviceSample.ofSample (mono ⟨left, right⟩))) ∧
            (2 ≤ channels →
              filled.buffer[index * channels]? =
                  some (DeviceSample.ofSample left) ∧
                filled.buffer[index * channels + 1]? =
                  some (DeviceSample.ofSample right) ∧
                ∀ other,
                  2 ≤ other →
                  other < channels →
                  filled.buffer[index * channels + other]? =
                    some DeviceSample.equilibrium)) ∧
        (∀ position,
          count * channels ≤ position →
          filled.buffer[position]? = buffer[position]?) ∧
        (channels = 0 → filled = ⟨buffer, stereo.toArray, synth⟩) ∧
        fill channels buffer synth = (filled.buffer, filled.synth) := by
  intro count whole samples
  obtain ⟨after, afterRoom, shape, keepsStereo⟩ :=
    fill?_eq channels stereo.size_toArray buffer synth
  have frameCount : (synth.render count).1.length = count :=
    Synth.length_render count synth
  -- One interleaved rendering has the same frames.
  have front : (Array.replicate (count * 2) (0 : Int16)).size / 2 = count := by
    simp
  obtain ⟨written, wholeShape, size, contents⟩ := synth.renderInterleaved_eq front
  have wholeIs : whole = _ := wholeShape
  have samplesAre : samples = written := by simp only [samples, wholeIs]
  have sampleCount : samples.size = count * 2 := by
    rw [samplesAre, size, Array.size_replicate]
  have fewer : (synth.render count).1.length ≤ buffer.length / channels :=
    Nat.le_of_eq frameCount
  refine ⟨_, shape, afterRoom, ⟨by rw [wholeIs], sampleCount, by rw [wholeIs]⟩,
    length_covered fewer, ?_, ?_, ?_, ?_⟩
  · intro index left right isLeft isRight
    have inside : index < count := by
      have before := (Array.getElem?_eq_some_iff.mp isLeft).1
      omega
    rw [samplesAre] at isLeft isRight
    have present := Synth.frame_of_samples contents inside isLeft isRight
    constructor
    · intro isMono
      subst isMono
      have place := getElem?_covered present Nat.one_pos buffer
      rw [Nat.mul_one, Nat.add_zero] at place
      exact ⟨toInt_mono _, place⟩
    · intro several
      have isSpread :
          (spread channels ⟨left, right⟩ : List Sample) =
            DeviceSample.ofSample left :: DeviceSample.ofSample right ::
              List.replicate (channels - 2) DeviceSample.equilibrium :=
        if_neg (by omega)
      have place
          (offset : Nat)
          (inside : offset < channels) :=
        getElem?_covered present inside buffer
      rw [isSpread] at place
      refine ⟨place 0 (by omega), place 1 (by omega), ?_⟩
      intro other beyond inside
      obtain ⟨extra, rfl⟩ := Nat.exists_eq_add_of_le' beyond
      rw [place _ inside, List.getElem?_cons_succ, List.getElem?_cons_succ]
      exact List.getElem?_replicate_of_lt (by omega)
  · intro position behind
    apply getElem?_covered_of_ge fewer
    rw [frameCount]
    exact behind
  · intro none
    rw [keepsStereo none]
    subst none
    have silent : synth.render (buffer.length / 0) = ([], synth) := by
      rw [Nat.div_zero]
      rfl
    rw [silent]
    rfl
  · obtain ⟨otherAfter, -, otherShape, -⟩ :=
      fill?_eq channels size_stereoBuffer buffer synth
    rw [fill, otherShape]

end Polyphony.Output
