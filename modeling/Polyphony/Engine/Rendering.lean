import Polyphony.Engine.Basic

namespace Polyphony.Engine

/-!
# Rendering

Sound is made in blocks of bounded size.  Voices that end within a block become
free at its end.  The frames of a render call can be had as a list, written
alternately into one buffer, or scattered into two.  Whatever is written to a
buffer is written frame by frame, and every place is checked before.
-/

open Number (Transcendental)
open Sound (Stereo toSample)

/-- The most frames that are mixed at a time. -/
def blockSize : Nat := 2048

/-- The sizes of the blocks of a number of frames: full ones, then the rest. -/
def blockSizes (frames : Nat) : List Nat :=
  List.replicate (frames / blockSize) blockSize ++
    if frames % blockSize = 0 then [] else [frames % blockSize]

/-! ## Buffers -/

/-- Why buffers cannot take the frames of a render call, or a sample of one. -/
inductive BufferFault where
  | leftTooSmall (frames : Nat)
  | rightTooSmall (frames : Nat)
  | outOfBounds (size index : Nat)
  deriving Repr, DecidableEq

namespace BufferFault

/-- The wording of a buffer fault. -/
def message : BufferFault → String
  | .leftTooSmall frames => s!"left buffer too small for {frames} frames"
  | .rightTooSmall frames => s!"right buffer too small for {frames} frames"
  | .outOfBounds size index =>
      s!"index out of bounds: the len is {size} but the index is {index}"

end BufferFault

/-- Buffers as writing has left them, and the fault that has ended it, if any. -/
structure Written (Buffers : Type) where
  buffers : Buffers
  fault? : Option BufferFault
  deriving DecidableEq

namespace Written

/-- Write on, unless there was a fault. -/
def andThen
    (next : Buffers → Written Buffers)
    (first : Written Buffers) :
    Written Buffers :=
  match first.fault? with
  | some _ => first
  | none => next first.buffers

end Written

/-- Write a sample to its place, if the buffer has that. -/
def writeSample
    (place : Nat)
    (sample : Int16)
    (samples : Array Int16) :
    Written (Array Int16) :=
  if inside : place < samples.size then
    ⟨samples.set place sample, none⟩
  else
    ⟨samples, some (.outOfBounds samples.size place)⟩

/-- Write a frame into one buffer, left samples to even places, right ones to odd. -/
def writePair
    (index : Nat)
    (frame : Stereo Int16)
    (samples : Array Int16) :
    Written (Array Int16) :=
  (writeSample (2 * index) frame.left samples).andThen
    (writeSample (2 * index + 1) frame.right)

/-- A buffer, and where frames go in it: frame `i` to `offset + i * stride`. -/
structure StridedBuffer where
  samples : Array Int16
  offset : Nat
  stride : Nat
  deriving DecidableEq

namespace StridedBuffer

/-- The index of a frame. -/
def indexOf
    (frame : Nat)
    (buffer : StridedBuffer) :
    Nat :=
  buffer.offset + frame * buffer.stride

/-- Whether there is room for a positive number of frames. -/
def hasRoomFor
    (frames : Nat)
    (buffer : StridedBuffer) :
    Bool :=
  buffer.indexOf (frames - 1) < buffer.samples.size

end StridedBuffer

/-- Write a frame into two buffers, one for each side. -/
def writeApart
    (leftPlace rightPlace : Nat → Nat)
    (index : Nat)
    (frame : Stereo Int16) :
    Stereo (Array Int16) → Written (Stereo (Array Int16))
  | ⟨left, right⟩ =>
      match writeSample (leftPlace index) frame.left left with
      | ⟨left, some fault⟩ => ⟨⟨left, right⟩, some fault⟩
      | ⟨left, none⟩ =>
          match writeSample (rightPlace index) frame.right right with
          | ⟨right, fault?⟩ => ⟨⟨left, right⟩, fault?⟩

/-- Hand frames, numbered from `first` on, to a sink that writes them. -/
def deliver
    (sink : Nat → Stereo Int16 → Buffers → Written Buffers) :
    Nat → List (Stereo Int16) → Buffers → Written Buffers
  | _, [], buffers => ⟨buffers, none⟩
  | first, frame :: rest, buffers =>
      (sink first frame buffers).andThen fun written =>
        deliver sink (first + 1) rest written

/-! ## Blocks of sound -/

/-- The samples of some frames, left and right in turn. -/
def interleave (frames : List (Stereo Int16)) : List Int16 :=
  frames.flatMap fun frame => [frame.left, frame.right]

namespace Synth

/-- Mix one block, and convert it to output samples. -/
def renderBlock
    [Transcendental]
    (frames : Nat)
    (synth : Synth) :
    List (Stereo Int16) × Synth :=
  let (bus, pool) :=
    synth.pool.render frames synth.channels synth.configuration.interpolation
  let gain := synth.configuration.gain
  (bus.frames.map (·.map fun value => toSample (value * gain)),
    { synth with pool := pool })

/-- Render some blocks, one after the other. -/
def renderBlocks
    [Transcendental] :
    List Nat → Synth → List (Stereo Int16) × Synth
  | [], synth => ([], synth)
  | frames :: rest, synth =>
      let (first, rendered) := synth.renderBlock frames
      let (others, last) := renderBlocks rest rendered
      (first ++ others, last)

/-- Render a number of frames. -/
def render
    [Transcendental]
    (frames : Nat)
    (synth : Synth) :
    List (Stereo Int16) × Synth :=
  synth.renderBlocks (blockSizes frames)

/--
Render some blocks, of which the first begins with frame `done`, and hand their
frames to a sink.  A fault of the sink ends it all, after the block was mixed.
-/
def renderInto
    [Transcendental]
    (sink : Nat → Stereo Int16 → Buffers → Written Buffers) :
    List Nat → Nat → Buffers → Synth → Written Buffers × Synth
  | [], _, buffers, synth => (⟨buffers, none⟩, synth)
  | size :: rest, done, buffers, synth =>
      let (frames, rendered) := synth.renderBlock size
      match deliver sink done frames buffers with
      | ⟨buffers, some fault⟩ => (⟨buffers, some fault⟩, rendered)
      | ⟨buffers, none⟩ =>
          renderInto sink rest (done + size) buffers rendered

/-- Render as many frames as a buffer has room for, both sides into it. -/
def renderInterleaved
    [Transcendental]
    (samples : Array Int16)
    (synth : Synth) :
    Written (Array Int16) × Synth :=
  synth.renderInto writePair (blockSizes (samples.size / 2)) 0 samples

/-- Render into two buffers, unless one of them has no room. -/
def renderPlanar
    [Transcendental]
    (frames : Nat)
    (left right : StridedBuffer)
    (synth : Synth) :
    Written (Stereo (Array Int16)) × Synth :=
  let samples : Stereo (Array Int16) := ⟨left.samples, right.samples⟩
  if frames = 0 then
    (⟨samples, none⟩, synth)
  else if !left.hasRoomFor frames then
    (⟨samples, some (.leftTooSmall frames)⟩, synth)
  else if !right.hasRoomFor frames then
    (⟨samples, some (.rightTooSmall frames)⟩, synth)
  else
    synth.renderInto (writeApart left.indexOf right.indexOf)
      (blockSizes frames) 0 samples

/--
The buffer of an interleaved rendering, left samples at even indices and right
ones at odd.  The last sample of an odd buffer stays.
-/
def writeInterleaved
    [Transcendental]
    (samples : Array Int16)
    (synth : Synth) :
    Array Int16 × Synth :=
  let (written, rendered) := synth.renderInterleaved samples
  (written.buffers, rendered)

/-- The two buffers of a planar rendering, or what is wrong with them. -/
def writePlanar
    [Transcendental]
    (frames : Nat)
    (left right : StridedBuffer)
    (synth : Synth) :
    Except BufferFault ((Array Int16 × Array Int16) × Synth) :=
  let (written, rendered) := synth.renderPlanar frames left right
  match written.fault? with
  | some fault => .error fault
  | none => .ok ((written.buffers.left, written.buffers.right), rendered)

end Synth

end Polyphony.Engine
