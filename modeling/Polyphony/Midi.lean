namespace Polyphony

/-!
# Channel voice messages

The messages of a keyboard that a synthesizer acts on, and how they are decoded
from bytes.  A message starts with a status byte, which holds its kind and its
channel; of each data byte the low seven bits count.
-/

/-- A message to one channel, split into its parts. -/
inductive MidiEvent where
  | noteOn (channel key velocity : Nat)
  | noteOff (channel key velocity : Nat)
  | controlChange (channel controller value : Nat)
  /-- A value of fourteen bits; 8192 is the centre. -/
  | pitchBend (channel value : Nat)
  | programChange (channel program : Nat)
  deriving Repr, DecidableEq

namespace MidiEvent

/-- The part of a data byte that carries data. -/
def dataPart (byte : UInt8) : Nat :=
  byte.toNat % 128

/-- The event of a message kind and channel, from its data bytes. -/
def ofParts?
    (kind channel : Nat) :
    List UInt8 → Option MidiEvent
  | first :: second :: _ =>
      match kind with
      | 8 => some (.noteOff channel (dataPart first) (dataPart second))
      | 9 => some (.noteOn channel (dataPart first) (dataPart second))
      | 11 => some (.controlChange channel (dataPart first) (dataPart second))
      | 12 => some (.programChange channel (dataPart first))
      | 14 =>
          some (.pitchBend channel (dataPart second * 128 + dataPart first))
      | _ => none
  | [first] =>
      match kind with
      | 12 => some (.programChange channel (dataPart first))
      | _ => none
  | [] => none

/--
Decode one message.  Messages without a status byte, system messages and those
for which the synthesizer has no use give nothing; bytes beyond the message are
ignored.
-/
def ofBytes? : List UInt8 → Option MidiEvent
  | [] => none
  | status :: data =>
      ofParts? (status.toNat / 16) (status.toNat % 16) data

/-- The channel of an event. -/
def channel : MidiEvent → Nat
  | .noteOn channel _ _ => channel
  | .noteOff channel _ _ => channel
  | .controlChange channel _ _ => channel
  | .pitchBend channel _ => channel
  | .programChange channel _ => channel

end MidiEvent

end Polyphony
