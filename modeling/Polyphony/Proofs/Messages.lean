import Polyphony.Midi
import Polyphony.Proofs.FailedCalls

namespace Polyphony

/-!
# Messages as bytes

Of the bytes of a message there count the status byte and the low seven bits of
as many data bytes as its kind has.  An event has just one such message, and an
event that is decoded has its parts in their ranges, so that all a synthesizer
can find wrong with it are its channel and a velocity of zero.
-/

/-! ## Bytes -/

/-- The status byte of a message kind and a channel. -/
def statusByte (kind channel : Nat) : UInt8 :=
  .ofNat (kind * 16 + channel)

theorem toNat_statusByte
    {kind channel : Nat}
    (kindFits : kind < 16)
    (channelFits : channel < 16) :
    (statusByte kind channel).toNat = kind * 16 + channel := by
  have fits : kind * 16 + channel < 256 := by omega
  simpa [statusByte] using fits

/-- A status byte is put together from its kind and its channel. -/
theorem statusByte_of_toNat (status : UInt8) :
    statusByte (status.toNat / 16) (status.toNat % 16) = status := by
  rw [statusByte, Nat.mul_comm, Nat.div_add_mod, UInt8.ofNat_toNat]

theorem dataPart_lt (byte : UInt8) : MidiEvent.dataPart byte < 128 :=
  Nat.mod_lt _ (by decide)

/-- A data byte without its highest bit is the part that carries data. -/
theorem ofNat_dataPart (byte : UInt8) :
    UInt8.ofNat (MidiEvent.dataPart byte) = byte % 128 := by
  apply UInt8.toNat.inj
  have small := dataPart_lt byte
  simp only [MidiEvent.dataPart] at small ⊢
  simp
  omega

namespace MidiEvent

/-- How many data bytes a message of a kind has, if it is of any use. -/
def dataCount? : Nat → Option Nat
  | 8 | 9 | 11 | 14 => some 2
  | 12 => some 1
  | _ => none

/--
What counts of some bytes that begin with a message: its status byte, and the
low seven bits of each data byte that its kind has.
-/
def message? : List UInt8 → Option (List UInt8)
  | [] => none
  | status :: data =>
      (dataCount? (status.toNat / 16)).bind fun count =>
        if count ≤ data.length then
          some (status :: (data.take count).map (· % 128))
        else
          none

/-- The message of an event. -/
def toBytes : MidiEvent → List UInt8
  | .noteOff channel key velocity =>
      [statusByte 8 channel, .ofNat key, .ofNat velocity]
  | .noteOn channel key velocity =>
      [statusByte 9 channel, .ofNat key, .ofNat velocity]
  | .controlChange channel controller value =>
      [statusByte 11 channel, .ofNat controller, .ofNat value]
  | .programChange channel program =>
      [statusByte 12 channel, .ofNat program]
  | .pitchBend channel value =>
      [statusByte 14 channel, .ofNat (value % 128), .ofNat (value / 128)]

/-- Channels have four bits, bends fourteen, and all other parts seven. -/
def InRange : MidiEvent → Prop
  | .noteOff channel key velocity
  | .noteOn channel key velocity =>
      channel < 16 ∧ key < 128 ∧ velocity < 128
  | .controlChange channel controller value =>
      channel < 16 ∧ controller < 128 ∧ value < 128
  | .programChange channel program => channel < 16 ∧ program < 128
  | .pitchBend channel value => channel < 16 ∧ value < 16384

/-! ## From events to bytes and back -/

/-- The message of an event is decoded to it, whatever follows the message. -/
theorem ofBytes?_toBytes_append
    {event : MidiEvent}
    (inRange : event.InRange)
    (rest : List UInt8) :
    ofBytes? (event.toBytes ++ rest) = some event := by
  have dataPart_ofNat
      {value : Nat}
      (fits : value < 128) :
      dataPart (.ofNat value) = value := by
    simp [dataPart]
    omega
  have parts
      (kind : Nat)
      {channel : Nat}
      (kindFits : kind < 16)
      (channelFits : channel < 16) :
      (statusByte kind channel).toNat / 16 = kind ∧
        (statusByte kind channel).toNat % 16 = channel := by
    rw [toNat_statusByte kindFits channelFits]
    omega
  cases event with
  | noteOff channel key velocity =>
      obtain ⟨channelFits, keyFits, velocityFits⟩ := inRange
      obtain ⟨isKind, isChannel⟩ := parts 8 (by decide) channelFits
      simp [toBytes, ofBytes?, ofParts?, isKind, isChannel,
        dataPart_ofNat keyFits, dataPart_ofNat velocityFits]
  | noteOn channel key velocity =>
      obtain ⟨channelFits, keyFits, velocityFits⟩ := inRange
      obtain ⟨isKind, isChannel⟩ := parts 9 (by decide) channelFits
      simp [toBytes, ofBytes?, ofParts?, isKind, isChannel,
        dataPart_ofNat keyFits, dataPart_ofNat velocityFits]
  | controlChange channel controller value =>
      obtain ⟨channelFits, controllerFits, valueFits⟩ := inRange
      obtain ⟨isKind, isChannel⟩ := parts 11 (by decide) channelFits
      simp [toBytes, ofBytes?, ofParts?, isKind, isChannel,
        dataPart_ofNat controllerFits, dataPart_ofNat valueFits]
  | pitchBend channel value =>
      obtain ⟨channelFits, valueFits⟩ := inRange
      obtain ⟨isKind, isChannel⟩ := parts 14 (by decide) channelFits
      have low : value % 128 < 128 := Nat.mod_lt _ (by decide)
      have high : value / 128 < 128 := by omega
      have whole : value / 128 * 128 + value % 128 = value := by omega
      simp [toBytes, ofBytes?, ofParts?, isKind, isChannel,
        dataPart_ofNat low, dataPart_ofNat high, whole]
  | programChange channel program =>
      obtain ⟨channelFits, programFits⟩ := inRange
      obtain ⟨isKind, isChannel⟩ := parts 12 (by decide) channelFits
      cases rest <;>
        simp [toBytes, ofBytes?, ofParts?, isKind, isChannel,
          dataPart_ofNat programFits]

/-- Events in their ranges are told apart by their messages. -/
theorem eq_of_toBytes_eq
    {first second : MidiEvent}
    (firstInRange : first.InRange)
    (secondInRange : second.InRange)
    (same : first.toBytes = second.toBytes) :
    first = second := by
  have firstDecoded := ofBytes?_toBytes_append firstInRange []
  rw [same, ofBytes?_toBytes_append secondInRange] at firstDecoded
  exact (Option.some.inj firstDecoded).symm

/-- A kind with enough data makes a message, of which it is all that counts. -/
theorem message?_cons
    {status : UInt8}
    {data : List UInt8}
    {kind count : Nat}
    (isKind : status.toNat / 16 = kind)
    (counted : dataCount? kind = some count)
    (enough : count ≤ data.length) :
    message? (status :: data) =
      some (statusByte kind (status.toNat % 16) ::
        (data.take count).map (· % 128)) := by
  rw [← isKind, statusByte_of_toNat]
  simp [message?, isKind, counted, enough]

/-- What is decoded is in range, and comes from bytes that begin with its message. -/
theorem message?_of_ofBytes?
    {bytes : List UInt8}
    {event : MidiEvent}
    (decoded : ofBytes? bytes = some event) :
    event.InRange ∧ message? bytes = some event.toBytes := by
  cases bytes with
  | nil => cases decoded
  | cons status data =>
      have channelFits : status.toNat % 16 < 16 := Nat.mod_lt _ (by decide)
      simp only [ofBytes?] at decoded
      rcases data with _ | ⟨first, _ | ⟨second, rest⟩⟩
      · cases decoded
      · have fits := dataPart_lt first
        simp only [ofParts?] at decoded
        split at decoded
        · rename_i isKind
          cases decoded
          rw [message?_cons isKind rfl (by simp)]
          simp [InRange, toBytes, channelFits, fits, ofNat_dataPart]
        · cases decoded
      · have low := dataPart_lt first
        have high := dataPart_lt second
        simp only [ofParts?] at decoded
        split at decoded
        case h_1 isKind | h_2 isKind | h_3 isKind | h_4 isKind =>
          cases decoded
          rw [message?_cons isKind rfl (by simp)]
          simp [InRange, toBytes, channelFits, low, high, ofNat_dataPart]
        case h_5 isKind =>
          -- A bend is taken apart into the two parts that it was made of.
          have bendFits :
              dataPart second * 128 + dataPart first < 16384 := by omega
          have lowPart :
              (dataPart second * 128 + dataPart first) % 128 =
                dataPart first := by omega
          have highPart :
              (dataPart second * 128 + dataPart first) / 128 =
                dataPart second := by omega
          cases decoded
          rw [message?_cons isKind rfl (by simp)]
          simp [InRange, toBytes, channelFits, bendFits, lowPart, highPart,
            ofNat_dataPart]
        case h_6 => cases decoded

/-- An event is made of the data of a kind if there is enough of it. -/
theorem isSome_ofParts?_iff
    {kind channel : Nat}
    {data : List UInt8} :
    (ofParts? kind channel data).isSome ↔
      kind ∈ [8, 9, 11, 14] ∧ 2 ≤ data.length ∨
        kind = 12 ∧ 1 ≤ data.length := by
  rcases data with _ | ⟨first, _ | ⟨second, rest⟩⟩
  · simp [ofParts?]
  · simp only [ofParts?]
    split <;> simp_all
  · simp only [ofParts?]
    split <;> simp_all

theorem isSome_message?_iff
    {status : UInt8}
    {data : List UInt8} :
    (message? (status :: data)).isSome ↔
      status.toNat / 16 ∈ [8, 9, 11, 14] ∧ 2 ≤ data.length ∨
        status.toNat / 16 = 12 ∧ 1 ≤ data.length := by
  simp only [message?, dataCount?]
  split <;> simp_all

/-- Bytes are decoded exactly if they begin with a message. -/
theorem isSome_ofBytes? (bytes : List UInt8) :
    (ofBytes? bytes).isSome ↔ (message? bytes).isSome := by
  cases bytes with
  | nil => rfl
  | cons status data =>
      rw [ofBytes?, isSome_ofParts?_iff, isSome_message?_iff]

/-- Bytes are decoded to an event exactly if they begin with its message. -/
theorem ofBytes?_eq_some_iff
    {bytes : List UInt8}
    {event : MidiEvent} :
    ofBytes? bytes = some event ↔
      event.InRange ∧ message? bytes = some event.toBytes := by
  constructor
  · exact message?_of_ofBytes?
  · rintro ⟨inRange, begins⟩
    have decodes : (ofBytes? bytes).isSome := by
      rw [isSome_ofBytes?, begins, Option.isSome_some]
    obtain ⟨other, decoded⟩ := Option.isSome_iff_exists.mp decodes
    obtain ⟨otherInRange, otherBegins⟩ := message?_of_ofBytes? decoded
    rw [begins, Option.some.injEq] at otherBegins
    rw [decoded, eq_of_toBytes_eq inRange otherInRange otherBegins]

/-- The message is all that decoding depends on, and no two messages are alike. -/
theorem ofBytes?_eq_iff_message?_eq (bytes other : List UInt8) :
    ofBytes? bytes = ofBytes? other ↔ message? bytes = message? other := by
  constructor
  · intro same
    cases decoded : ofBytes? bytes with
    | some event =>
        rw [(message?_of_ofBytes? decoded).2,
          (message?_of_ofBytes? (same ▸ decoded)).2]
    | none =>
        have without
            {bytes : List UInt8}
            (undecoded : ofBytes? bytes = none) :
            message? bytes = none := by
          rw [← Option.not_isSome_iff_eq_none, ← isSome_ofBytes?, undecoded]
          simp
        rw [without decoded, without (same ▸ decoded)]
  · intro same
    apply Option.ext
    intro event
    rw [ofBytes?_eq_some_iff, ofBytes?_eq_some_iff, same]

/-- The message is the same, whatever follows it and whatever else its bytes hold. -/
example :
    ofBytes? [0xE1, 0x81, 0xFF, 0x90] = some (.pitchBend 1 16257) ∧
      message? [0xE1, 0x81, 0xFF, 0x90] = some [0xE1, 1, 127] := by
  decide

end MidiEvent

namespace Engine

open Number (Transcendental)

/-- Of the notes that can be decoded, the only faulty ones are without velocity. -/
theorem head?_noteFaults_iff
    {event : MidiEvent}
    (inRange : event.InRange)
    {error : SynthError} :
    (noteFaults event).head? = some error ↔
      (∃ key, event = .noteOn event.channel key 0) ∧
        error = .invalidVelocity 0 := by
  cases event with
  | noteOn channel key velocity =>
      obtain ⟨-, keyFits, velocityFits⟩ := inRange
      have keyValid : key ≤ 127 := by omega
      by_cases silent : velocity = 0
      · simp [noteFaults, keyFaults, velocityFaults, MidiEvent.channel,
          keyValid, silent, eq_comm]
      · have velocityValid : 1 ≤ velocity ∧ velocity ≤ 127 := by omega
        simp [noteFaults, keyFaults, velocityFaults, keyValid, velocityValid,
          silent]
  | noteOff channel key velocity =>
      obtain ⟨-, keyFits, -⟩ := inRange
      have keyValid : key ≤ 127 := by omega
      simp [noteFaults, keyFaults, keyValid]
  | controlChange channel controller value => simp [noteFaults]
  | pitchBend channel value => simp [noteFaults]
  | programChange channel program => simp [noteFaults]

namespace Synth

variable [Transcendental] {synth : Synth}

/-- What can be wrong with an event that was decoded: its channel, or silence. -/
theorem processMidi_eq_error_iff
    (sized : synth.Sized)
    {event : MidiEvent}
    (inRange : event.InRange)
    (error : SynthError) :
    (synth.processMidi event).result = .error error ↔
      (synth.configuration.channels ≤ event.channel ∧
          error =
            .invalidChannel event.channel synth.configuration.channels) ∨
        (event.channel < synth.configuration.channels ∧
          (∃ key, event = .noteOn event.channel key 0) ∧
            error = .invalidVelocity 0) := by
  rw [(failsWith_processMidi sized event).first, channelFaults, sized.channels]
  by_cases valid : event.channel < synth.configuration.channels
  · simp [valid, Nat.not_le.mpr valid, head?_noteFaults_iff inRange]
  · simp [valid, Nat.not_lt.mp valid, eq_comm]

/-- A bend of fourteen bits is stored as it is. -/
theorem processMidi_bends
    (sized : synth.Sized)
    {channel value : Nat}
    (valid : channel < synth.configuration.channels)
    (fits : value < 16384) :
    ∃ entry,
      (synth.processMidi (.pitchBend channel value)).synth.channels[channel]? =
          some entry ∧
        entry.pitchBend = value := by
  have inside : channel < synth.channels.length := by rwa [sized.channels]
  refine ⟨synth.channels[channel].setPitchBend value, ?_, ?_⟩
  · simp [processMidi, pitchBend, onChannel_synth, valid, reclaimed_eq,
      getElem?_changeChannel, List.getElem?_eq_getElem inside]
  · simp only [Channel.setPitchBend]
    omega

/--
At every point of a session, bytes are an event exactly if they begin with a
status byte that has a use and with all the data bytes of its kind.  Which event
they are depends on these alone, of data bytes on the low seven bits, and
differs with each of them.  The event has its parts in their ranges: acting on
it fails exactly if the channel is not there or, where it is, for a note
without velocity, and a bend is stored as it came.
-/
theorem run_messages_are_decoded_in_range
    (configuration : SynthConfiguration)
    (actions : List Action)
    (bytes : List UInt8) :
    let synth := (Synth.new configuration).run actions
    ((MidiEvent.ofBytes? bytes).isSome ↔
        ∃ status data,
          bytes = status :: data ∧
            (status.toNat / 16 ∈ [8, 9, 11, 14] ∧ 2 ≤ data.length ∨
              status.toNat / 16 = 12 ∧ 1 ≤ data.length)) ∧
      (∀ other,
        MidiEvent.ofBytes? bytes = MidiEvent.ofBytes? other ↔
          MidiEvent.message? bytes = MidiEvent.message? other) ∧
      (∀ status first second rest,
        bytes = status :: first :: second :: rest →
        status.toNat / 16 = 14 →
        MidiEvent.ofBytes? bytes =
          some
            (.pitchBend (status.toNat % 16)
              (second.toNat % 128 * 128 + first.toNat % 128))) ∧
      ∀ event,
        MidiEvent.ofBytes? bytes = some event →
        let outcome := synth.processMidi event
        (event.InRange ∧ MidiEvent.message? bytes = some event.toBytes) ∧
          (∀ error,
            outcome.result = .error error ↔
              (configuration.channels ≤ event.channel ∧
                  error =
                    .invalidChannel event.channel configuration.channels) ∨
                (event.channel < configuration.channels ∧
                  (∃ key, event = .noteOn event.channel key 0) ∧
                    error = .invalidVelocity 0)) ∧
          (∀ key, outcome.result ≠ .error (.invalidKey key)) ∧
          ∀ value,
            event = .pitchBend event.channel value →
            event.channel < configuration.channels →
            ∃ entry,
              outcome.synth.channels[event.channel]? = some entry ∧
                entry.pitchBend = value := by
  intro synth
  have sized : synth.Sized :=
    Sized.invariant.run actions (Sized.new configuration)
  have configured : synth.Configured configuration :=
    (Configured.invariant configuration).run actions
      (Configured.new configuration)
  refine ⟨?_, MidiEvent.ofBytes?_eq_iff_message?_eq bytes, ?_, ?_⟩
  · rw [MidiEvent.isSome_ofBytes?]
    cases bytes with
    | nil => simp [MidiEvent.message?]
    | cons status data =>
        rw [MidiEvent.isSome_message?_iff]
        simp
  · rintro status first second rest rfl isKind
    simp [MidiEvent.ofBytes?, MidiEvent.ofParts?, MidiEvent.dataPart, isKind]
  · intro event decoded outcome
    have decodedParts := MidiEvent.ofBytes?_eq_some_iff.mp decoded
    have inRange := decodedParts.1
    have fails := processMidi_eq_error_iff sized inRange
    rw [configured.sameConfiguration] at fails
    refine ⟨decodedParts, fails, ?_, ?_⟩
    · intro key failed
      simpa using (fails _).mp failed
    · intro value isBend valid
      rw [isBend] at inRange
      rw [← configured.sameConfiguration] at valid
      have bent := processMidi_bends sized valid inRange.2
      rwa [← isBend] at bent

end Synth

end Engine

end Polyphony
