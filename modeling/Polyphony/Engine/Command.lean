import Polyphony.Engine.Control

namespace Polyphony.Engine

/-!
# Commands

Every control call as a value, so that runs of a synthesizer are lists of them.
-/

open Instrument (Bank BankId)
open Number (Transcendental)
open SoundFont (BankLoader)

/-- A control call with its arguments. -/
inductive Command where
  | addBank (bank : Bank) (updatePresets : Bool)
  | load (path : String) (updatePresets : Bool)
  | unload (id : BankId) (updatePresets : Bool)
  | programSelect (channel : Nat) (id : BankId) (bankNumber program : Nat)
  | programChange (channel program : Nat)
  | noteOn (channel key velocity : Nat)
  | noteOff (channel key : Nat)
  | allNotesOff (channel? : Option Nat)
  | allSoundsOff (channel? : Option Nat)
  | controlChange (channel controller value : Nat)
  | pitchBend (channel value : Nat)
  | midi (event : MidiEvent)
  deriving DecidableEq

/-- What a call that succeeds answers. -/
inductive Reply where
  | done
  | loaded (id : BankId)
  deriving Repr, DecidableEq

namespace Outcome

/-- The outcome of a call that answers with the handle of a bank. -/
def replyingLoaded (outcome : Outcome BankId) : Outcome Reply :=
  { outcome with result := outcome.result.map .loaded }

/-- The outcome of a call that has nothing to answer. -/
def replyingDone (outcome : Outcome Unit) : Outcome Reply :=
  { outcome with result := outcome.result.map fun _ => .done }

end Outcome

namespace Synth

/-- Carry out a command. -/
def perform
    [Transcendental]
    (loader : BankLoader)
    (command : Command)
    (synth : Synth) :
    Outcome Reply :=
  match command with
  | .addBank bank updatePresets =>
      (synth.addBank bank updatePresets).replyingLoaded
  | .load path updatePresets =>
      (synth.load loader path updatePresets).replyingLoaded
  | .unload id updatePresets => (synth.unload id updatePresets).replyingDone
  | .programSelect channel id bankNumber program =>
      (synth.programSelect channel id bankNumber program).replyingDone
  | .programChange channel program =>
      (synth.programChange channel program).replyingDone
  | .noteOn channel key velocity =>
      (synth.noteOn channel key velocity).replyingDone
  | .noteOff channel key => (synth.noteOff channel key).replyingDone
  | .allNotesOff channel? => (synth.allNotesOff channel?).replyingDone
  | .allSoundsOff channel? => (synth.allSoundsOff channel?).replyingDone
  | .controlChange channel controller value =>
      (synth.controlChange channel controller value).replyingDone
  | .pitchBend channel value => (synth.pitchBend channel value).replyingDone
  | .midi event => (synth.processMidi event).replyingDone

end Synth

end Polyphony.Engine
