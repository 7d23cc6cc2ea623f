import Polyphony.Proofs.EnvelopeTimes
import Polyphony.Proofs.Fading

/-!
# Voices that begin

A voice that starts takes from its note and its zone all that it plays: the pitch,
the loudness, the place between the speakers, the part of the sample pool and the
envelope.  Nothing is left of what it has sounded before.  Its output rate is that
of the synthesizer, and never changes.
-/

namespace Polyphony.Sound.Envelope

/-- A key that is pressed makes an envelope new, but for its rate. -/
theorem noteOn_eq_new
    (parameters : EnvelopeParameters)
    (envelope : Envelope) :
    envelope.noteOn parameters =
      (new envelope.sampleRate).noteOn parameters :=
  rfl

end Polyphony.Sound.Envelope

namespace Polyphony.Engine

open Instrument (LoopMode Zone)
open Number (Transcendental widen)
open Sound (Cursor Envelope decibelGain velocityGain)

/-! ## What a voice begins with -/

/--
A cursor stands at the first sample of a zone's recording.  It follows the zone's
loop, if the zone loops and the loop lies in the recording.
-/
structure Cued
    (zone : Zone)
    (cursor : Cursor Float) : Prop where
  position : cursor.position = Float.ofNat zone.recording.start
  start : cursor.start = zone.recording.start
  stop : cursor.stop = zone.recording.stop
  finished : cursor.finished ↔ zone.recording.stop ≤ zone.recording.start
  looping :
    cursor.looping ↔
      zone.loopMode ≠ .noLoop ∧
        zone.recording.start ≤ zone.recording.loopStart ∧
        zone.recording.loopStart < zone.recording.loopStop ∧
        zone.recording.loopStop ≤ zone.recording.stop
  loop :
    cursor.looping →
    cursor.loopStart = zone.recording.loopStart ∧
      cursor.loopStop = zone.recording.loopStop

theorem loop?_eq (zone : Zone) :
    zone.loop? =
      if zone.loopMode = .noLoop then
        none
      else
        some (zone.recording.loopStart, zone.recording.loopStop) := by
  unfold Zone.loop?
  cases zone.loopMode <;> rfl

theorem cued_new (zone : Zone) :
    Cued zone (.new zone.recording.start zone.recording.stop zone.loop?) where
  position := rfl
  start := rfl
  stop := rfl
  finished := decide_eq_true_iff
  looping := by
    by_cases straight : zone.loopMode = .noLoop
    · simp [Cursor.new, loop?_eq, straight]
    · simp [Cursor.new, Cursor.fits, loop?_eq, straight, and_assoc,
        and_left_comm]
  loop := by
    by_cases straight : zone.loopMode = .noLoop
    · simp [Cursor.new, loop?_eq, straight]
    · simp only [Cursor.new, loop?_eq, straight, if_false, Option.any_some]
      intro fitting
      simp [Option.filter_some, fitting]

namespace Voice

/--
A voice attacks with a note, and plays a zone of a bank for it, from the beginning
and at an output rate.
-/
structure Begins
    [Transcendental]
    (rate : Float32)
    (note : Note)
    (source : BankReference)
    (zone : Zone)
    (voice : Voice) : Prop where
  attacking : voice.state = .attacking
  channel : voice.channel = note.channel
  key : voice.key = note.key
  velocity : voice.velocity = note.velocity
  serial : voice.serial = note.serial
  bankId : voice.bankId? = some source.id
  source : voice.source? = some source
  rootKey : voice.rootKey = zone.rootKey
  tuning : voice.tuning = zone.tuning
  keyScaling : voice.keyScaling = zone.keyScaling
  loopMode : voice.loopMode = zone.loopMode
  rateRatio :
    voice.rateRatio =
      Float.ofNat zone.recording.sampleRate / widen rate
  gain :
    voice.gain = velocityGain note.velocity * decibelGain zone.attenuation
  pan : voice.pan = zone.pan
  outputRate : voice.outputRate = rate
  cursor : Cued zone voice.cursor
  envelope : voice.envelope = (Envelope.new rate).noteOn zone.envelope

/-! ## Output rates -/

variable [Transcendental]

/-- A voice and its envelope are made for an output rate. -/
structure RunsAt
    (rate : Float32)
    (voice : Voice) : Prop where
  ofVoice : voice.outputRate = rate
  ofEnvelope : voice.envelope.sampleRate = rate

theorem outputRate_sounded
    (frames : Nat)
    (mix : ChannelMix)
    (method : Sound.Interpolation)
    (voice : Voice) :
    (voice.sounded frames mix method).outputRate = voice.outputRate := by
  cases held : voice.source? with
  | none => rw [sounded_of_unsourced held]
  | some source =>
      obtain ⟨cursor, shape⟩ := sounded_eq held frames mix method
      rw [shape, settle]
      split <;> rfl

theorem sampleRate_sounded
    (frames : Nat)
    (mix : ChannelMix)
    (method : Sound.Interpolation)
    (voice : Voice) :
    (voice.sounded frames mix method).envelope.sampleRate =
      voice.envelope.sampleRate := by
  cases held : voice.source? with
  | none => rw [sounded_of_unsourced held]
  | some source => rw [envelope_sounded held, Envelope.sampleRate_levels]

/-- The rates of a voice never change. -/
theorem runsAt_invariant (rate : Float32) :
    Voice.Invariant (RunsAt rate) where
  free := fun runsAt => ⟨runsAt.ofVoice, runsAt.ofEnvelope⟩
  start := by
    intro note source zone voice runsAt
    have sameRate := Envelope.sampleRate_noteOn zone.envelope voice.envelope
    exact ⟨runsAt.ofVoice, sameRate.trans runsAt.ofEnvelope⟩
  release := by
    intro voice runsAt
    unfold release
    split
    · exact ⟨runsAt.ofVoice,
        voice.envelope.sampleRate_noteOff.trans runsAt.ofEnvelope⟩
    · exact runsAt
  forceRelease := by
    intro seconds voice runsAt
    unfold forceRelease
    split
    · exact runsAt
    · have sameRate := voice.envelope.sampleRate_forceRelease seconds
      exact ⟨runsAt.ofVoice, sameRate.trans runsAt.ofEnvelope⟩
  sounded := by
    intro frames mix method voice runsAt
    exact
      ⟨(voice.outputRate_sounded frames mix method).trans runsAt.ofVoice,
        (voice.sampleRate_sounded frames mix method).trans runsAt.ofEnvelope⟩

/-- A voice that starts plays its zone, whatever it was before. -/
theorem RunsAt.begins_start
    {rate : Float32}
    {voice : Voice}
    (runsAt : voice.RunsAt rate)
    (note : Note)
    (source : BankReference)
    (zone : Zone) :
    (voice.start note source zone).Begins rate note source zone where
  attacking := rfl
  channel := rfl
  key := rfl
  velocity := rfl
  serial := rfl
  bankId := rfl
  source := rfl
  rootKey := rfl
  tuning := rfl
  keyScaling := rfl
  loopMode := rfl
  rateRatio := by rw [← runsAt.ofVoice, start]
  gain := rfl
  pan := rfl
  outputRate := runsAt.ofVoice
  cursor := cued_new zone
  envelope := by rw [← runsAt.ofEnvelope, ← Envelope.noteOn_eq_new, start]

end Voice

end Polyphony.Engine
