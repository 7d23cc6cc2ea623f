import Polyphony.Engine.Notes
import Polyphony.Engine.Rendering
import Polyphony.Log
import Polyphony.Midi
import Polyphony.SoundFont.Loading

namespace Polyphony.Engine

/-!
# Control calls

The calls that change a synthesizer.  Each checks its arguments, changes the
synthesizer or fails without a change, and at its end drops the references that
ended voices have left.  A call that is rejected for its channel, key or
velocity does not get so far as to drop any.
-/

open Instrument (Bank BankId)
open Number (Transcendental)
open Sound (Stereo)
open SoundFont (BankLoader)

/-- The result of a control call, the synthesizer after it, and what it tells. -/
structure Outcome (Value : Type) where
  result : Except SynthError Value
  synth : Synth
  log : List LogEvent

namespace Outcome

/-- The outcome of a call that was not even begun. -/
def rejected
    (error : SynthError)
    (synth : Synth) :
    Outcome Value where
  result := .error error
  synth := synth
  log := []

/-- Go on after a call, unless it failed. -/
def andThen
    (first : Outcome First)
    (next : First → Synth → Outcome Second) :
    Outcome Second :=
  match first.result with
  | .error error => ⟨.error error, first.synth, first.log⟩
  | .ok value =>
      let second := next value first.synth
      { second with log := first.log ++ second.log }

/-- Tell some events before those of a call. -/
def after
    (events : List LogEvent)
    (outcome : Outcome Value) :
    Outcome Value :=
  { outcome with log := events ++ outcome.log }

end Outcome

namespace Synth

/-- Drop the references that ended voices have left, and tell if there were any. -/
def reclaim (synth : Synth) : List LogEvent × Synth :=
  let (count, pool) := synth.pool.drain
  (if count = 0 then [] else [.referencesReclaimed count],
    { synth with pool := pool })

/-- End a control call: drop references, then tell what the call did. -/
def conclude
    (result : Except SynthError Value)
    (log : List LogEvent)
    (synth : Synth) :
    Outcome Value :=
  let (reclaimed, synth) := synth.reclaim
  { result, synth, log := reclaimed ++ log }

/-- End a control call that cannot fail. -/
def complete
    (log : List LogEvent)
    (synth : Synth) :
    Outcome Unit :=
  synth.conclude (.ok ()) log

/-- End a call that has failed without a change, or has changed to a new state. -/
def concludeWith
    (before : Synth)
    (changed : Except SynthError (Value × Synth))
    (tell : Value → List LogEvent) :
    Outcome Value :=
  match changed with
  | .error error => before.conclude (.error error) []
  | .ok (value, synth) => synth.conclude (.ok value) (tell value)

/-- A synthesizer with the given settings, or what is wrong with them. -/
def create
    (settings : Settings) :
    Except SynthError (Synth × List LogEvent) :=
  (SynthConfiguration.ofSettings settings).map fun configuration =>
    (Synth.new configuration,
      [.synthCreated configuration.sampleRate configuration.channels
        configuration.polyphony configuration.gain])

/-! ## Banks -/

/-- Load a bank that is built already. -/
def addBank
    (bank : Bank)
    (updatePresets : Bool)
    (synth : Synth) :
    Outcome BankId :=
  let added :=
    synth.concludeWith (synth.publish bank updatePresets)
      fun (id, rebindings) =>
        rebindings.map .channelRebound ++
          [.bankAdded id bank.name bank.presets.length]
  { added with result := added.result.map Prod.fst }

/-- Load the bank of a path. -/
def load
    (loader : BankLoader)
    (path : String)
    (updatePresets : Bool)
    (synth : Synth) :
    Outcome BankId :=
  let loading := loader path
  let flattened := loading.flattened.map LogEvent.presetFlattened
  let outcome : Outcome BankId :=
    match loading.bank with
    | .error error => .rejected error synth
    | .ok bank =>
        (synth.addBank bank updatePresets).andThen fun id added =>
          ⟨.ok id, added, [.soundFontLoaded id path]⟩
  outcome.after flattened

/-- Unload a bank.  Voices that still read it fade out quickly. -/
def unload
    (id : BankId)
    (updatePresets : Bool)
    (synth : Synth) :
    Outcome Unit :=
  let unloaded :=
    synth.concludeWith (synth.withdraw id updatePresets) fun withdrawal =>
      withdrawal.rebindings.map .channelFellBack ++
        [.bankUnloaded id withdrawal.bank.name withdrawal.releasing]
  { unloaded with result := unloaded.result.map fun _ => () }

/-! ## Programs -/

/-- Carry out a call on a channel that the synthesizer has. -/
def onChannel
    (channel : Nat)
    (call : Synth → Outcome Value)
    (synth : Synth) :
    Outcome Value :=
  match synth.channelError? channel with
  | some error => .rejected error synth
  | none => call synth

/-- Carry out a call on one channel, or on all of them. -/
def onChannels
    (channel? : Option Nat)
    (call : Synth → Outcome Value)
    (synth : Synth) :
    Outcome Value :=
  match channel? with
  | some channel => synth.onChannel channel call
  | none => call synth

/-- Carry out a call on a key that notes have. -/
def onKey
    (key : Nat)
    (call : Synth → Outcome Value)
    (synth : Synth) :
    Outcome Value :=
  if 127 < key then
    .rejected (.invalidKey key) synth
  else
    call synth

/-- Bind a channel to the preset of an address in one bank. -/
def programSelect
    (channel : Nat)
    (id : BankId)
    (bankNumber program : Nat)
    (synth : Synth) :
    Outcome Unit :=
  synth.onChannel channel fun synth =>
    synth.concludeWith (synth.selectProgram channel id bankNumber program)
      fun _ => [.programSelected channel id bankNumber program]

/-- Give a channel another program, of which the low seven bits count. -/
def programChange
    (channel program : Nat)
    (synth : Synth) :
    Outcome Unit :=
  synth.onChannel channel fun synth =>
    let (searched?, changed) := synth.changeProgram channel (program % 128)
    changed.complete <|
      searched?.toList.map (.programResolved channel (program % 128))

/-! ## Notes and controllers -/

/-- Press a key. -/
def noteOn
    [Transcendental]
    (channel key velocity : Nat)
    (synth : Synth) :
    Outcome Unit :=
  synth.onChannel channel fun synth =>
    synth.onKey key fun synth =>
      if 1 ≤ velocity && velocity ≤ 127 then
        let (report, started) := synth.startNote channel key velocity
        started.complete <|
          report.stolen.map .voiceStolen ++
            if report.droppedLayers = 0 then
              []
            else
              [.layersDropped channel key report.droppedLayers
                synth.configuration.polyphony]
      else
        .rejected (.invalidVelocity velocity) synth

/-- Release a key.  It need not be sounding. -/
def noteOff
    (channel key : Nat)
    (synth : Synth) :
    Outcome Unit :=
  synth.onChannel channel fun synth =>
    synth.onKey key fun synth =>
      (synth.changePool (·.releaseKey channel key)).complete []

/-- Release all keys of one channel, or of all of them. -/
def allNotesOff
    (channel? : Option Nat)
    (synth : Synth) :
    Outcome Unit :=
  synth.onChannels channel? fun synth =>
    (synth.changePool (·.releaseChannel channel?)).complete []

/-- Cut all sounds of one channel, or of all of them, short. -/
def allSoundsOff
    (channel? : Option Nat)
    (synth : Synth) :
    Outcome Unit :=
  synth.onChannels channel? fun synth =>
    (synth.changePool
      (·.forceReleaseChannel channel? forcedRelease)).complete []

/-- Move a controller of a channel. -/
def controlChange
    (channel controller value : Nat)
    (synth : Synth) :
    Outcome Unit :=
  synth.onChannel channel fun synth =>
    (synth.applyController channel controller value).complete []

/-- Bend the pitch of a channel. -/
def pitchBend
    (channel value : Nat)
    (synth : Synth) :
    Outcome Unit :=
  synth.onChannel channel fun synth =>
    (synth.changeChannel channel (Channel.setPitchBend value)).complete []

/-- Act on a keyboard event. -/
def processMidi
    [Transcendental]
    (event : MidiEvent)
    (synth : Synth) :
    Outcome Unit :=
  match event with
  | .noteOn channel key velocity => synth.noteOn channel key velocity
  | .noteOff channel key _ => synth.noteOff channel key
  | .controlChange channel controller value =>
      synth.controlChange channel controller value
  | .pitchBend channel value => synth.pitchBend channel value
  | .programChange channel program => synth.programChange channel program

/-! ## Rendering from the control side -/

/-- Render a number of frames, and drop the references of voices that ended. -/
def renderSamples
    [Transcendental]
    (frames : Nat)
    (synth : Synth) :
    List Int16 × Synth × List LogEvent :=
  let (rendered, synth) := synth.render frames
  let (reclaimed, synth) := synth.reclaim
  (interleave rendered, synth, reclaimed)

end Synth

end Polyphony.Engine
