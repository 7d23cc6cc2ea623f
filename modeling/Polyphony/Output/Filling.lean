import Polyphony.Engine.Rendering
import Polyphony.Number.Rounding

namespace Polyphony.Output

/-!
# Filling device buffers

A device asks for buffers of frames with as many channels as it has.  They are
filled block by block from the synthesizer's stereo frames: a device of one
channel gets the mean of both sides, one of more than two gets silence on the
others.  Samples that make no whole frame stay as they are.

Each block is rendered into the front of one stereo buffer that all blocks
share, and is read from there.  Where something is read or written that is not
there, nothing comes of the whole.
-/

open Engine (Synth blockSize)
open Number (Transcendental)
open Sound (Stereo)

/-- A kind of number that a device takes in its buffers. -/
class DeviceSample (Sample : Type) where
  ofSample : Int16 → Sample
  /-- The value of silence. -/
  equilibrium : Sample

/-- Signed samples are passed on. -/
instance : DeviceSample Int16 where
  ofSample := id
  equilibrium := 0

/-- Unsigned samples have silence in the middle of their range. -/
instance : DeviceSample UInt16 where
  ofSample := fun sample => UInt16.ofNat (sample.toInt + 32768).toNat
  equilibrium := 32768

/-- Single precision samples have full scale at one. -/
instance : DeviceSample Float32 where
  ofSample := fun sample => Float32.ofInt sample.toInt / 32768
  equilibrium := 0

/-- The mean of both sides, rounded toward zero. -/
def mono (frame : Stereo Int16) : Int16 :=
  Int16.ofInt ((frame.left.toInt + frame.right.toInt).tdiv 2)

variable {Sample : Type} [DeviceSample Sample]

/-- Fill one frame of a device of some channels from a stereo pair of samples. -/
def fillFrame?
    (channels : Nat)
    (frame : List Sample)
    (pair : List Int16) :
    Option (List Sample) :=
  match pair with
  | left :: right :: _ =>
      if channels = 1 then
        match frame with
        | [] => none
        | _ :: others =>
            some (DeviceSample.ofSample (mono ⟨left, right⟩) :: others)
      else
        match frame with
        | _ :: _ :: others =>
            some
              (DeviceSample.ofSample left :: DeviceSample.ofSample right ::
                others.map fun _ => DeviceSample.equilibrium)
        | _ => none
  | _ => none

/-- Fill frames from stereo pairs, for as long as there are both. -/
def fillFrames?
    (channels : Nat) :
    List (List Sample) → List (List Int16) → Option (List (List Sample))
  | frame :: frames, pair :: pairs => do
      let filled ← fillFrame? channels frame pair
      let others ← fillFrames? channels frames pairs
      return filled :: others
  | frames, _ => some frames

/-- Cut a list into pieces of a size, of which the last may be smaller. -/
def cut
    (size : Nat)
    (whole : List Entry) :
    List (List Entry) :=
  (List.range ((whole.length + size - 1) / size)).map fun position =>
    (whole.drop (position * size)).take size

/-- The pieces of a size that a list has, without what is left over. -/
def cutExact
    (size : Nat)
    (whole : List Entry) :
    List (List Entry) :=
  (List.range (whole.length / size)).map fun position =>
    (whole.drop (position * size)).take size

/-- A device's buffer and the stereo buffer beside it, and the synthesizer. -/
structure Filled (Sample : Type) where
  buffer : List Sample
  stereo : Array Int16
  synth : Synth

/-- Fill one block of a device's buffer. -/
def fillBlock?
    [Transcendental]
    (channels : Nat)
    (stereo : Array Int16)
    (block : List Sample)
    (synth : Synth) :
    Option (Filled Sample) :=
  let count := block.length / channels
  if count * 2 ≤ stereo.size then
    let (written, rendered) :=
      synth.renderInterleaved (stereo.extract 0 (count * 2))
    if written.fault?.isSome then
      none
    else
      let pairs := cutExact 2 written.buffers.toList
      (fillFrames? channels (cutExact channels block) pairs).map fun frames =>
        { buffer := frames.flatten ++ block.drop (count * channels)
          stereo :=
            written.buffers ++ stereo.extract (count * 2) stereo.size
          synth := rendered }
  else
    none

/-- Fill a buffer that is cut into blocks. -/
def fillBlocks?
    [Transcendental]
    (channels : Nat) :
    Array Int16 → List (List Sample) → Synth → Option (Filled Sample)
  | stereo, [], synth => some ⟨[], stereo, synth⟩
  | stereo, block :: rest, synth => do
      let first ← fillBlock? channels stereo block synth
      let others ← fillBlocks? channels first.stereo rest first.synth
      return { others with buffer := first.buffer ++ others.buffer }

/-- Fill the buffer of a device, with the help of a stereo buffer. -/
def fill?
    [Transcendental]
    (channels : Nat)
    (stereo : Array Int16)
    (buffer : List Sample)
    (synth : Synth) :
    Option (Filled Sample) :=
  if channels = 0 then
    some ⟨buffer, stereo, synth⟩
  else
    fillBlocks? channels stereo (cut (blockSize * channels) buffer) synth

/-- The stereo buffer that comes with a device. -/
def stereoBuffer : Array Int16 :=
  Array.replicate (blockSize * 2) 0

/-- Fill the buffer of a device of some channels. -/
def fill
    [Transcendental]
    (channels : Nat)
    (buffer : List Sample)
    (synth : Synth) :
    List Sample × Synth :=
  match fill? channels stereoBuffer buffer synth with
  | some filled => (filled.buffer, filled.synth)
  | none => (buffer, synth)

end Polyphony.Output
