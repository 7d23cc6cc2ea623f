import Polyphony.Engine.Channel
import Polyphony.Engine.Reclamation
import Polyphony.Sound.Cursor
import Polyphony.Sound.Envelope
import Polyphony.Sound.Mixing

namespace Polyphony.Engine

/-!
# Voices

A voice sounds one zone of a bank: it reads the recording with a cursor, shapes
it with an envelope, and holds a reference to the bank for as long as it does.
-/

open Instrument (BankId LoopMode Zone)
open Number (Transcendental widen)
open Sound (Bus Cursor Envelope Interpolation addScaled decibelGain panGains
  velocityGain)

/-- The life of a voice. -/
inductive VoiceState where
  /-- Ready to be used. -/
  | free
  /-- Key held, envelope before the end of its attack. -/
  | attacking
  /-- Key held, envelope past its attack. -/
  | sustaining
  /-- Key released, envelope falling. -/
  | releasing
  deriving Repr, DecidableEq

namespace VoiceState

/-- The name of a state. -/
def name : VoiceState → String
  | .free => "Free"
  | .attacking => "Attacking"
  | .sustaining => "Sustaining"
  | .releasing => "Releasing"

end VoiceState

/-- Who plays a note: its channel, key and velocity, and its place in time. -/
structure Note where
  channel : Nat
  key : Nat
  velocity : Nat
  serial : Nat
  deriving Repr, DecidableEq

/--
What decides which voice is stolen: a released one before a held one, then the
oldest note, the softest, and the lowest slot.
-/
structure StealKey where
  held : Bool
  serial : Nat
  velocity : Nat
  slot : Nat
  deriving Repr, DecidableEq

namespace StealKey

/-- Whether the first key is stolen before the second. -/
def precedes
    (first second : StealKey) :
    Bool :=
  if first.held ≠ second.held then
    second.held
  else if first.serial ≠ second.serial then
    first.serial < second.serial
  else if first.velocity ≠ second.velocity then
    first.velocity < second.velocity
  else
    first.slot < second.slot

end StealKey

/--
One voice.  It keeps the handle of its bank beside the reference to it.  A free
one keeps the channel and serial of its last note.
-/
structure Voice where
  state : VoiceState
  channel : Nat
  key : Nat
  velocity : Nat
  serial : Nat
  bankId? : Option BankId
  source? : Option BankReference
  rootKey : Nat
  tuning : Float32
  keyScaling : Float32
  loopMode : LoopMode
  rateRatio : Float
  gain : Float32
  pan : Float32
  outputRate : Float32
  cursor : Cursor Float
  envelope : Envelope
  deriving DecidableEq

namespace Voice

/-- A free voice, for output at the given rate. -/
def new (outputRate : Float32) : Voice where
  state := .free
  channel := 0
  key := 0
  velocity := 0
  serial := 0
  bankId? := none
  source? := none
  rootKey := 60
  tuning := 0
  keyScaling := 100
  loopMode := .noLoop
  rateRatio := 1
  gain := 0
  pan := 0
  outputRate := outputRate
  cursor := .idle
  envelope := .new outputRate

/-- Whether the voice can be used. -/
def isFree (voice : Voice) : Bool :=
  voice.state = .free

/-- Whether the key of the voice is held. -/
def isHeld (voice : Voice) : Bool :=
  voice.state = .attacking || voice.state = .sustaining

/-- Sound a zone of a bank for a note, on a free voice. -/
def start
    [Transcendental]
    (note : Note)
    (source : BankReference)
    (zone : Zone)
    (voice : Voice) :
    Voice :=
  { voice with
    state := .attacking
    channel := note.channel
    key := note.key
    velocity := note.velocity
    serial := note.serial
    bankId? := some source.id
    source? := some source
    rootKey := zone.rootKey
    tuning := zone.tuning
    keyScaling := zone.keyScaling
    loopMode := zone.loopMode
    rateRatio :=
      Float.ofNat zone.recording.sampleRate / widen voice.outputRate
    gain := velocityGain note.velocity * decibelGain zone.attenuation
    pan := zone.pan
    cursor := .new zone.recording.start zone.recording.stop zone.loop?
    envelope := voice.envelope.noteOn zone.envelope }

/-- The cursor after the key's release: some loops end with it. -/
def releasedCursor (voice : Voice) : Cursor Float :=
  if voice.loopMode = .untilRelease then
    voice.cursor.stopLooping
  else
    voice.cursor

/-- Key released: a held voice begins to fade. -/
def release (voice : Voice) : Voice :=
  if voice.isHeld then
    { voice with
      state := .releasing
      envelope := voice.envelope.noteOff
      cursor := voice.releasedCursor }
  else
    voice

/-- Fade a sounding voice out within `seconds`, whatever its own release is. -/
def forceRelease
    (seconds : Float32)
    (voice : Voice) :
    Voice :=
  if voice.isFree then
    voice
  else
    { voice with
      state := .releasing
      envelope := voice.envelope.forceRelease seconds
      cursor := voice.releasedCursor }

/-- How far the cursor moves for every output sample. -/
def step
    [Transcendental]
    (bend : Float32)
    (voice : Voice) :
    Float :=
  let keyDistance :=
    Float32.ofNat voice.key - Float32.ofNat voice.rootKey
  let cents := keyDistance * voice.keyScaling + voice.tuning + bend
  Transcendental.exponential (widen cents / 1200) * voice.rateRatio

/-- The next sample of the voice, and the voice after it. -/
def nextSample
    (pool : Array Int16)
    (method : Interpolation)
    (step : Float)
    (voice : Voice) :
    Float32 × Voice :=
  let envelope := voice.envelope.next
  (voice.cursor.read pool method * envelope.level,
    { voice with
      envelope := envelope
      cursor := voice.cursor.advance step })

/-- The next samples of the voice, and the voice after them. -/
def samples
    (pool : Array Int16)
    (method : Interpolation)
    (step : Float) :
    Nat → Voice → List Float32 × Voice
  | 0, voice => ([], voice)
  | count + 1, voice =>
      let (first, moved) := nextSample pool method step voice
      let (rest, last) := samples pool method step count moved
      (first :: rest, last)

/-- Move on to sustaining once the envelope is past its attack. -/
def settle (voice : Voice) : Voice :=
  if voice.state = .attacking &&
      voice.envelope.stage ≠ .delay && voice.envelope.stage ≠ .attack then
    { voice with state := .sustaining }
  else
    voice

/-- Whether the voice has nothing left to play. -/
def isDone (voice : Voice) : Bool :=
  !voice.envelope.isActive || voice.cursor.finished

/-- Add the next `frames` frames of the voice to a bus. -/
def render
    [Transcendental]
    (frames : Nat)
    (mix : ChannelMix)
    (method : Interpolation)
    (bus : Bus)
    (voice : Voice) :
    Bus × Voice :=
  match voice.source? with
  | none => (bus, voice)
  | some source =>
      let (signal, played) :=
        voice.samples source.bank.samples method (voice.step mix.bend) frames
      let amplitude := voice.gain * mix.gain
      let gains :=
        (panGains (voice.pan + mix.pan)).map fun gain => amplitude * gain
      (bus.add signal gains, played.settle)

/-- Silence the voice and make it free; the bank it has read is handed back. -/
def free
    (voice : Voice) :
    Option BankReference × Voice :=
  (voice.source?,
    { voice with
      state := .free
      key := 0
      velocity := 0
      bankId? := none
      source? := none
      cursor := .idle
      envelope := voice.envelope.reset })

/-- What decides whether the voice, in its slot, is stolen. -/
def stealKey
    (slot : Nat)
    (voice : Voice) :
    StealKey where
  held := voice.isHeld
  serial := voice.serial
  velocity := voice.velocity
  slot := slot

end Voice

end Polyphony.Engine
