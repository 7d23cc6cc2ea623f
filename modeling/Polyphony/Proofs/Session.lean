import Polyphony.Engine.Command

namespace Polyphony.Engine

/-!
# Sessions

A session is a list of public calls, carried out one after the other.  A
control call that is not rejected does all of its work in one mutation, under
the engine's lock, and drops the parked references after it.  So whatever the
mutations, the render calls and the dropping keep, every session keeps.
-/

open Instrument (Bank BankId)
open Number (Transcendental)
open SoundFont (BankLoader)

/-- What a control call does to a synthesizer while it holds the lock. -/
inductive Mutation where
  | publish (bank : Bank) (updatePresets : Bool)
  | withdraw (id : BankId) (updatePresets : Bool)
  | selectProgram (channel : Nat) (id : BankId) (bankNumber program : Nat)
  | changeProgram (channel program : Nat)
  | startNote (channel key velocity : Nat)
  | releaseKey (channel key : Nat)
  | releaseChannel (channel? : Option Nat)
  | forceReleaseChannel (channel? : Option Nat)
  | applyController (channel controller value : Nat)
  | bendPitch (channel value : Nat)
  deriving DecidableEq

namespace Synth

/-- The synthesizer after a change that may have failed. -/
def afterChange
    (changed : Except SynthError (Value × Synth))
    (synth : Synth) :
    Synth :=
  match changed with
  | .error _ => synth
  | .ok (_, after) => after

/-- A mutation of a channel, if the synthesizer has it. -/
def ifChannel
    (channel : Nat)
    (mutation : Mutation)
    (synth : Synth) :
    Option Mutation :=
  if channel < synth.configuration.channels then some mutation else none

/-- The synthesizer after the parked references are dropped. -/
def reclaimed (synth : Synth) : Synth :=
  synth.reclaim.2

end Synth

/-- Carry out a mutation.  One that fails changes nothing. -/
def Mutation.apply
    [Transcendental]
    (mutation : Mutation)
    (synth : Synth) :
    Synth :=
  match mutation with
  | .publish bank updatePresets =>
      synth.afterChange (synth.publish bank updatePresets)
  | .withdraw id updatePresets =>
      synth.afterChange (synth.withdraw id updatePresets)
  | .selectProgram channel id bankNumber program =>
      synth.afterChange (synth.selectProgram channel id bankNumber program)
  | .changeProgram channel program => (synth.changeProgram channel program).2
  | .startNote channel key velocity =>
      (synth.startNote channel key velocity).2
  | .releaseKey channel key => synth.changePool (·.releaseKey channel key)
  | .releaseChannel channel? => synth.changePool (·.releaseChannel channel?)
  | .forceReleaseChannel channel? =>
      synth.changePool (·.forceReleaseChannel channel? forcedRelease)
  | .applyController channel controller value =>
      synth.applyController channel controller value
  | .bendPitch channel value =>
      synth.changeChannel channel (Channel.setPitchBend value)

/--
The mutation of a command, unless the command is rejected before it takes the
lock: for its channel, key or velocity, or because its bank did not load.
-/
def Command.mutation?
    (loader : BankLoader)
    (command : Command)
    (synth : Synth) :
    Option Mutation :=
  match command with
  | .addBank bank updatePresets => some (.publish bank updatePresets)
  | .load path updatePresets =>
      match (loader path).bank with
      | .ok bank => some (.publish bank updatePresets)
      | .error _ => none
  | .unload id updatePresets => some (.withdraw id updatePresets)
  | .programSelect channel id bankNumber program =>
      synth.ifChannel channel (.selectProgram channel id bankNumber program)
  | .programChange channel program
  | .midi (.programChange channel program) =>
      synth.ifChannel channel (.changeProgram channel (program % 128))
  | .noteOn channel key velocity
  | .midi (.noteOn channel key velocity) =>
      if key ≤ 127 ∧ 1 ≤ velocity ∧ velocity ≤ 127 then
        synth.ifChannel channel (.startNote channel key velocity)
      else
        none
  | .noteOff channel key
  | .midi (.noteOff channel key _) =>
      if key ≤ 127 then
        synth.ifChannel channel (.releaseKey channel key)
      else
        none
  | .allNotesOff none => some (.releaseChannel none)
  | .allNotesOff (some channel) =>
      synth.ifChannel channel (.releaseChannel (some channel))
  | .allSoundsOff none => some (.forceReleaseChannel none)
  | .allSoundsOff (some channel) =>
      synth.ifChannel channel (.forceReleaseChannel (some channel))
  | .controlChange channel controller value
  | .midi (.controlChange channel controller value) =>
      synth.ifChannel channel (.applyController channel controller value)
  | .pitchBend channel value
  | .midi (.pitchBend channel value) =>
      synth.ifChannel channel (.bendPitch channel value)

/--
One public call that can change a synthesizer.  Each load has a loader of its
own, since files may change between calls.  `render` is a call of the
rendering side, which drops no references; `renderSamples` does.
-/
inductive Action where
  | control (loader : BankLoader) (command : Command)
  | render (frames : Nat)
  | renderSamples (frames : Nat)

namespace Synth

/-- The synthesizer after a public call, whether that succeeds or fails. -/
def act
    [Transcendental]
    (action : Action)
    (synth : Synth) :
    Synth :=
  match action with
  | .control loader command => (synth.perform loader command).synth
  | .render frames => (synth.render frames).2
  | .renderSamples frames => (synth.renderSamples frames).2.1

/-- The synthesizer after some public calls, one after the other. -/
def run
    [Transcendental]
    (actions : List Action)
    (synth : Synth) :
    Synth :=
  actions.foldl (fun current action => current.act action) synth

/-! ## A control call is a mutation, and then the queue is emptied -/

theorem reclaimed_eq (synth : Synth) :
    synth.reclaimed =
      { synth with
        pool :=
          { synth.pool with
            retired := { synth.pool.retired with parked := [] } } } := by
  rfl

@[simp] theorem conclude_synth
    (result : Except SynthError Value)
    (log : List LogEvent)
    (synth : Synth) :
    (synth.conclude result log).synth = synth.reclaimed := by
  rfl

@[simp] theorem complete_synth
    (log : List LogEvent)
    (synth : Synth) :
    (synth.complete log).synth = synth.reclaimed := by
  rfl

@[simp] theorem concludeWith_synth
    (changed : Except SynthError (Value × Synth))
    (tell : Value → List LogEvent)
    (before : Synth) :
    (before.concludeWith changed tell).synth =
      (before.afterChange changed).reclaimed := by
  cases changed with
  | error error => rfl
  | ok after => rfl

theorem concludeWith_result
    (changed : Except SynthError (Value × Synth))
    (tell : Value → List LogEvent)
    (before : Synth) :
    (before.concludeWith changed tell).result = changed.map Prod.fst := by
  cases changed with
  | error error => rfl
  | ok after => rfl

/-- A call on a channel is carried out exactly if the channel is there. -/
theorem onChannel_synth
    (channel : Nat)
    (call : Synth → Outcome Value)
    (synth : Synth) :
    (synth.onChannel channel call).synth =
      if channel < synth.configuration.channels then
        (call synth).synth
      else
        synth := by
  by_cases valid : channel < synth.configuration.channels
  · simp [onChannel, channelError?, valid, Nat.not_le.mpr valid]
  · simp [onChannel, channelError?, valid, Nat.not_lt.mp valid,
      Outcome.rejected]

theorem onKey_synth
    (key : Nat)
    (call : Synth → Outcome Value)
    (synth : Synth) :
    (synth.onKey key call).synth =
      if key ≤ 127 then (call synth).synth else synth := by
  by_cases valid : key ≤ 127
  · simp [onKey, valid, Nat.not_lt.mpr valid]
  · simp [onKey, valid, Nat.not_le.mp valid, Outcome.rejected]

theorem addBank_synth
    (bank : Bank)
    (updatePresets : Bool)
    (synth : Synth) :
    (synth.addBank bank updatePresets).synth =
      (synth.afterChange (synth.publish bank updatePresets)).reclaimed := by
  simp [addBank]

/-- Loading a path publishes its bank, or changes nothing if there is none. -/
theorem load_synth
    (loader : BankLoader)
    (path : String)
    (updatePresets : Bool)
    (synth : Synth) :
    (synth.load loader path updatePresets).synth =
      match (loader path).bank with
      | .ok bank => (synth.addBank bank updatePresets).synth
      | .error _ => synth := by
  cases loaded : (loader path).bank with
  | error error => simp [load, loaded, Outcome.after, Outcome.rejected]
  | ok bank =>
      cases added : (synth.addBank bank updatePresets).result <;>
        simp [load, loaded, Outcome.after, Outcome.andThen, added]

theorem eq_of_ifChannel
    {channel : Nat}
    {mutation carriedOut : Mutation}
    {synth : Synth}
    (valid : synth.ifChannel channel mutation = some carriedOut) :
    carriedOut = mutation := by
  unfold ifChannel at valid
  split at valid
  · exact (Option.some.inj valid).symm
  · cases valid

end Synth

/-- The mutations that commands ask for, some of them by a keyboard event. -/
inductive Command.AsksFor : Command → Mutation → Prop where
  | addBank (bank : Bank) (updatePresets : Bool) :
      AsksFor (.addBank bank updatePresets) (.publish bank updatePresets)
  | load (path : String) (bank : Bank) (updatePresets : Bool) :
      AsksFor (.load path updatePresets) (.publish bank updatePresets)
  | unload (id : BankId) (updatePresets : Bool) :
      AsksFor (.unload id updatePresets) (.withdraw id updatePresets)
  | programSelect (channel : Nat) (id : BankId) (bankNumber program : Nat) :
      AsksFor (.programSelect channel id bankNumber program)
        (.selectProgram channel id bankNumber program)
  | programChange (channel program : Nat) :
      AsksFor (.programChange channel program)
        (.changeProgram channel (program % 128))
  | programEvent (channel program : Nat) :
      AsksFor (.midi (.programChange channel program))
        (.changeProgram channel (program % 128))
  | noteOn (channel key velocity : Nat) :
      AsksFor (.noteOn channel key velocity) (.startNote channel key velocity)
  | noteOnEvent (channel key velocity : Nat) :
      AsksFor (.midi (.noteOn channel key velocity))
        (.startNote channel key velocity)
  | noteOff (channel key : Nat) :
      AsksFor (.noteOff channel key) (.releaseKey channel key)
  | noteOffEvent (channel key velocity : Nat) :
      AsksFor (.midi (.noteOff channel key velocity)) (.releaseKey channel key)
  | allNotesOff (channel? : Option Nat) :
      AsksFor (.allNotesOff channel?) (.releaseChannel channel?)
  | allSoundsOff (channel? : Option Nat) :
      AsksFor (.allSoundsOff channel?) (.forceReleaseChannel channel?)
  | controlChange (channel controller value : Nat) :
      AsksFor (.controlChange channel controller value)
        (.applyController channel controller value)
  | controlEvent (channel controller value : Nat) :
      AsksFor (.midi (.controlChange channel controller value))
        (.applyController channel controller value)
  | pitchBend (channel value : Nat) :
      AsksFor (.pitchBend channel value) (.bendPitch channel value)
  | bendEvent (channel value : Nat) :
      AsksFor (.midi (.pitchBend channel value)) (.bendPitch channel value)

/-- A command that is carried out does what it asks for. -/
theorem Command.asksFor
    {loader : BankLoader}
    {command : Command}
    {mutation : Mutation}
    {synth : Synth}
    (carriedOut : command.mutation? loader synth = some mutation) :
    command.AsksFor mutation := by
  have ofNote
      {channel key velocity : Nat}
      (valid :
        (if key ≤ 127 ∧ 1 ≤ velocity ∧ velocity ≤ 127 then
          synth.ifChannel channel (.startNote channel key velocity)
        else
          none) = some mutation) :
      mutation = .startNote channel key velocity := by
    split at valid
    · exact Synth.eq_of_ifChannel valid
    · cases valid
  have ofRelease
      {channel key : Nat}
      (valid :
        (if key ≤ 127 then
          synth.ifChannel channel (.releaseKey channel key)
        else
          none) = some mutation) :
      mutation = .releaseKey channel key := by
    split at valid
    · exact Synth.eq_of_ifChannel valid
    · cases valid
  cases command with
  | addBank bank updatePresets =>
      cases carriedOut
      exact .addBank bank updatePresets
  | load path updatePresets =>
      simp only [mutation?] at carriedOut
      split at carriedOut
      · cases carriedOut
        exact .load path _ updatePresets
      · cases carriedOut
  | unload id updatePresets =>
      cases carriedOut
      exact .unload id updatePresets
  | programSelect channel id bankNumber program =>
      rw [Synth.eq_of_ifChannel carriedOut]
      exact .programSelect channel id bankNumber program
  | programChange channel program =>
      rw [Synth.eq_of_ifChannel carriedOut]
      exact .programChange channel program
  | noteOn channel key velocity =>
      rw [ofNote carriedOut]
      exact .noteOn channel key velocity
  | noteOff channel key =>
      rw [ofRelease carriedOut]
      exact .noteOff channel key
  | allNotesOff channel? =>
      cases channel? with
      | none =>
          cases carriedOut
          exact .allNotesOff none
      | some channel =>
          rw [Synth.eq_of_ifChannel carriedOut]
          exact .allNotesOff (some channel)
  | allSoundsOff channel? =>
      cases channel? with
      | none =>
          cases carriedOut
          exact .allSoundsOff none
      | some channel =>
          rw [Synth.eq_of_ifChannel carriedOut]
          exact .allSoundsOff (some channel)
  | controlChange channel controller value =>
      rw [Synth.eq_of_ifChannel carriedOut]
      exact .controlChange channel controller value
  | pitchBend channel value =>
      rw [Synth.eq_of_ifChannel carriedOut]
      exact .pitchBend channel value
  | midi event =>
      cases event with
      | noteOn channel key velocity =>
          rw [ofNote carriedOut]
          exact .noteOnEvent channel key velocity
      | noteOff channel key velocity =>
          rw [ofRelease carriedOut]
          exact .noteOffEvent channel key velocity
      | controlChange channel controller value =>
          rw [Synth.eq_of_ifChannel carriedOut]
          exact .controlEvent channel controller value
      | pitchBend channel value =>
          rw [Synth.eq_of_ifChannel carriedOut]
          exact .bendEvent channel value
      | programChange channel program =>
          rw [Synth.eq_of_ifChannel carriedOut]
          exact .programEvent channel program

namespace Synth

/-- The synthesizer after a mutation and the reclaiming that follows it. -/
def concluded
    [Transcendental]
    (mutation? : Option Mutation)
    (synth : Synth) :
    Synth :=
  match mutation? with
  | none => synth
  | some mutation => (mutation.apply synth).reclaimed

@[simp] theorem concluded_none
    [Transcendental]
    (synth : Synth) :
    synth.concluded none = synth := by
  rfl

@[simp] theorem concluded_some
    [Transcendental]
    (mutation : Mutation)
    (synth : Synth) :
    synth.concluded (some mutation) = (mutation.apply synth).reclaimed := by
  rfl

theorem concluded_ifChannel
    [Transcendental]
    (channel : Nat)
    (mutation : Mutation)
    (synth : Synth) :
    synth.concluded (synth.ifChannel channel mutation) =
      if channel < synth.configuration.channels then
        (mutation.apply synth).reclaimed
      else
        synth := by
  unfold ifChannel
  split <;> rfl

/-- A key pressed within its ranges starts a note; another changes nothing. -/
theorem noteOn_synth
    [Transcendental]
    (loader : BankLoader)
    (channel key velocity : Nat)
    (synth : Synth) :
    (synth.noteOn channel key velocity).synth =
      synth.concluded
        ((Command.noteOn channel key velocity).mutation? loader synth) := by
  by_cases keyValid : key ≤ 127
  · by_cases velocityValid : 1 ≤ velocity ∧ velocity ≤ 127
    · simp [noteOn, onChannel_synth, onKey_synth, Command.mutation?,
        concluded_ifChannel, Mutation.apply, keyValid, velocityValid]
    · simp [noteOn, onChannel_synth, onKey_synth, Command.mutation?,
        keyValid, velocityValid, Outcome.rejected]
  · simp [noteOn, onChannel_synth, onKey_synth, Command.mutation?, keyValid]

theorem noteOff_synth
    [Transcendental]
    (loader : BankLoader)
    (channel key : Nat)
    (synth : Synth) :
    (synth.noteOff channel key).synth =
      synth.concluded
        ((Command.noteOff channel key).mutation? loader synth) := by
  by_cases keyValid : key ≤ 127
  · simp [noteOff, onChannel_synth, onKey_synth, Command.mutation?,
      concluded_ifChannel, Mutation.apply, keyValid]
  · simp [noteOff, onChannel_synth, onKey_synth, Command.mutation?, keyValid]

theorem onChannels_synth
    (channel? : Option Nat)
    (call : Synth → Outcome Value)
    (synth : Synth) :
    (synth.onChannels channel? call).synth =
      match channel? with
      | some channel => (synth.onChannel channel call).synth
      | none => (call synth).synth := by
  cases channel? with
  | none => rfl
  | some channel => rfl

/--
Every command is its mutation followed by the emptying of the queue, and a
rejected command is nothing at all.
-/
theorem perform_synth
    [Transcendental]
    (loader : BankLoader)
    (command : Command)
    (synth : Synth) :
    (synth.perform loader command).synth =
      synth.concluded (command.mutation? loader synth) := by
  cases command with
  | addBank bank updatePresets =>
      exact synth.addBank_synth bank updatePresets
  | load path updatePresets =>
      have loading := synth.load_synth loader path updatePresets
      cases loaded : (loader path).bank with
      | error error =>
          simp only [loaded] at loading
          simpa [perform, Outcome.replyingLoaded, Command.mutation?, loaded]
            using loading
      | ok bank =>
          simp only [loaded, addBank_synth] at loading
          simpa [perform, Outcome.replyingLoaded, Command.mutation?, loaded,
            Mutation.apply] using loading
  | unload id updatePresets =>
      simp [perform, Outcome.replyingDone, unload, Command.mutation?,
        Mutation.apply]
  | programSelect channel id bankNumber program =>
      simp [perform, Outcome.replyingDone, programSelect, onChannel_synth,
        Command.mutation?, concluded_ifChannel, Mutation.apply]
  | programChange channel program =>
      simp [perform, Outcome.replyingDone, programChange, onChannel_synth,
        Command.mutation?, concluded_ifChannel, Mutation.apply]
  | noteOn channel key velocity =>
      exact synth.noteOn_synth loader channel key velocity
  | noteOff channel key =>
      exact synth.noteOff_synth loader channel key
  | allNotesOff channel? =>
      cases channel? <;>
        simp [perform, Outcome.replyingDone, allNotesOff, onChannels_synth,
          onChannel_synth, Command.mutation?, concluded_ifChannel,
          Mutation.apply]
  | allSoundsOff channel? =>
      cases channel? <;>
        simp [perform, Outcome.replyingDone, allSoundsOff, onChannels_synth,
          onChannel_synth, Command.mutation?, concluded_ifChannel,
          Mutation.apply]
  | controlChange channel controller value =>
      simp [perform, Outcome.replyingDone, controlChange, onChannel_synth,
        Command.mutation?, concluded_ifChannel, Mutation.apply]
  | pitchBend channel value =>
      simp [perform, Outcome.replyingDone, pitchBend, onChannel_synth,
        Command.mutation?, concluded_ifChannel, Mutation.apply]
  | midi event =>
      cases event with
      | noteOn channel key velocity =>
          exact synth.noteOn_synth loader channel key velocity
      | noteOff channel key velocity =>
          exact synth.noteOff_synth loader channel key
      | controlChange channel controller value =>
          simp [perform, processMidi, Outcome.replyingDone, controlChange,
            onChannel_synth, Command.mutation?, concluded_ifChannel,
            Mutation.apply]
      | pitchBend channel value =>
          simp [perform, processMidi, Outcome.replyingDone, pitchBend,
            onChannel_synth, Command.mutation?, concluded_ifChannel,
            Mutation.apply]
      | programChange channel program =>
          simp [perform, processMidi, Outcome.replyingDone, programChange,
            onChannel_synth, Command.mutation?, concluded_ifChannel,
            Mutation.apply]

theorem renderSamples_synth
    [Transcendental]
    (frames : Nat)
    (synth : Synth) :
    (synth.renderSamples frames).2.1 = (synth.render frames).2.reclaimed := by
  rfl

end Synth

end Polyphony.Engine
