import Mathlib.Data.List.Induction
import Polyphony.Engine.MonoNotes
import Polyphony.Proofs.ReleasedNotes

namespace Polyphony.Engine

/-!
# Single notes

A helper that plays single notes keeps for itself which key it holds, while the
voices of that key may be stolen, cut or released by others.  As long as nobody
else presses keys on its channel, all held voices of the channel are of that
key, whichever of the helper's calls fail.
-/

open Number (Transcendental)
open SoundFont (BankLoader noFormatLoader)

/-! ## Sessions with a helper -/

/-- A call of a helper, or a public call that is made beside it. -/
inductive MonoCall where
  | switch (key : Nat)
  | release
  | setFont (loader : BankLoader) (path : String) (index : Nat)
  | other (action : Action)

/-- Whether a call tells a helper which key to hold. -/
def MonoCall.isNote : MonoCall → Bool
  | .switch _
  | .release => true
  | .setFont _ _ _
  | .other _ => false

/-- A helper, and the synthesizer that it plays. -/
structure MonoSession where
  notes : MonoNotes
  synth : Synth

namespace MonoSession

/-- A helper that holds no key, and a synthesizer without banks. -/
def new
    (configuration : SynthConfiguration)
    (channel velocity : Nat) :
    MonoSession where
  notes := .new channel velocity
  synth := .new configuration

variable [Transcendental]

/-- The helper and its synthesizer after a call, whether that succeeds or not. -/
def step
    (call : MonoCall)
    (session : MonoSession) :
    MonoSession :=
  match call with
  | .switch key =>
      let (notes, outcome) := session.notes.switch key session.synth
      ⟨notes, outcome.synth⟩
  | .release =>
      let (notes, outcome) := session.notes.release session.synth
      ⟨notes, outcome.synth⟩
  | .setFont loader path index =>
      { session with
        synth := (session.notes.setFont loader path index session.synth).synth }
  | .other action => { session with synth := session.synth.act action }

/-- The helper and its synthesizer after some calls, one after the other. -/
def run
    (calls : List MonoCall)
    (session : MonoSession) :
    MonoSession :=
  calls.foldl (fun current call => current.step call) session

@[simp] theorem step_switch
    (key : Nat)
    (session : MonoSession) :
    session.step (.switch key) =
      ⟨(session.notes.switch key session.synth).1,
        (session.notes.switch key session.synth).2.synth⟩ := by
  rfl

@[simp] theorem step_release (session : MonoSession) :
    session.step .release =
      ⟨(session.notes.release session.synth).1,
        (session.notes.release session.synth).2.synth⟩ := by
  rfl

@[simp] theorem step_setFont
    (loader : BankLoader)
    (path : String)
    (index : Nat)
    (session : MonoSession) :
    session.step (.setFont loader path index) =
      { session with
        synth :=
          (session.notes.setFont loader path index session.synth).synth } := by
  rfl

/-- Whether a switch of the helper to a key succeeds. -/
def switches
    (key : Nat)
    (session : MonoSession) : Prop :=
  (session.notes.switch key session.synth).2.result = .ok ()

theorem run_nil (session : MonoSession) : session.run [] = session := by
  rfl

theorem run_cons
    (call : MonoCall)
    (rest : List MonoCall)
    (session : MonoSession) :
    session.run (call :: rest) = (session.step call).run rest := by
  rfl

theorem run_append
    (first second : List MonoCall)
    (session : MonoSession) :
    session.run (first ++ second) = (session.run first).run second :=
  List.foldl_append

end MonoSession

/-! ## Held voices come from held voices -/

/-- Of the voices that wane, only those are held that were held before. -/
theorem VoicePool.Wanes.exists_held
    {watched : Origin → Prop}
    {frames : Nat}
    {before after : VoicePool}
    (wanes : before.Wanes watched frames after)
    (wellFormed : before.WellFormed)
    (counting : ∀ voice ∈ before.voices, voice.envelope.Counting)
    {last : Voice}
    (member : last ∈ after.voices)
    (held : last.isHeld)
    (isWatched : watched last.origin) :
    ∃ voice ∈ before.voices, voice.isHeld ∧ voice.origin = last.origin := by
  have sounding := Voice.not_isFree_of_isHeld held
  obtain ⟨slot, present⟩ := List.mem_iff_getElem?.mp member
  obtain ⟨voice, voicePresent, voiceSounding, sameOrigin, fades⟩ :=
    wanes slot last present sounding isWatched
  have voiceMember := List.mem_of_getElem? voicePresent
  refine ⟨voice, voiceMember, ?_, sameOrigin⟩
  apply Classical.byContradiction
  intro notHeld
  have releasing := Voice.releasing_of_not_held voiceSounding notHeld
  have lastFades :=
    fades _
      ((wellFormed voice voiceMember).fadesWithin (counting voice voiceMember)
        releasing)
  rw [lastFades.isHeld] at held
  cases held

namespace Synth

/-- What a session keeps that the notes of a helper rely on. -/
structure Playable
    (configuration : SynthConfiguration)
    (synth : Synth) : Prop where
  configured : synth.Configured configuration
  wellFormed : synth.pool.WellFormed
  counting : ∀ voice ∈ synth.pool.voices, voice.envelope.Counting

/-- All held voices of a channel are of one key, if there are any. -/
def HoldsOnly
    (channel : Nat)
    (key? : Option Nat)
    (synth : Synth) : Prop :=
  ∀ voice ∈ synth.pool.voices,
    voice.isHeld →
    voice.channel = channel →
    key? = some voice.key

namespace Playable

theorem new (configuration : SynthConfiguration) :
    (Synth.new configuration).Playable configuration where
  configured := .new configuration
  wellFormed := wellFormed_new configuration
  counting := by
    intro voice member releasing
    rw [List.eq_of_mem_replicate member] at releasing
    cases releasing

theorem invariant
    [Transcendental]
    (configuration : SynthConfiguration) :
    Invariant (Synth.Playable configuration) where
  mutation := fun mutation _ playable => {
    configured :=
      (Configured.invariant configuration).mutation mutation playable.configured
    wellFormed := wellFormed_invariant.mutation mutation playable.wellFormed
    counting :=
      Voice.counting_invariant.synth.mutation mutation playable.counting
  }
  drops := fun shorter playable => {
    configured :=
      (Configured.invariant configuration).drops shorter playable.configured
    wellFormed := playable.wellFormed
    counting := playable.counting
  }
  block := fun frames _ playable => {
    configured :=
      (Configured.invariant configuration).block frames playable.configured
    wellFormed := wellFormed_invariant.block frames playable.wellFormed
    counting := Voice.counting_invariant.synth.block frames playable.counting
  }

/-- One call is a session as well. -/
theorem act
    [Transcendental]
    {configuration : SynthConfiguration}
    {synth : Synth}
    (playable : synth.Playable configuration)
    (action : Action) :
    (synth.act action).Playable configuration :=
  (invariant configuration).run [action] playable

end Playable

namespace HoldsOnly

variable {configuration : SynthConfiguration} {channel : Nat}
  {key? : Option Nat} {synth after : Synth}

/-- Where no note of the channel starts, no voice comes to be held. -/
theorem of_wanes
    {frames : Nat}
    (holds : synth.HoldsOnly channel key?)
    (playable : synth.Playable configuration)
    {watched : Origin → Prop}
    (wanes : synth.pool.Wanes watched frames after.pool)
    (others :
      ∀ voice : Voice,
        voice.channel = channel →
        watched voice.origin ∨ key? = some voice.key) :
    after.HoldsOnly channel key? := by
  intro last member held onChannel
  rcases others last onChannel with isWatched | isKey
  · obtain ⟨voice, voiceMember, voiceHeld, sameOrigin⟩ :=
      wanes.exists_held playable.wellFormed playable.counting member held
        isWatched
    have sameChannel : voice.channel = last.channel :=
      congrArg (·.note.channel) sameOrigin
    have sameKey : voice.key = last.key := congrArg (·.note.key) sameOrigin
    rw [← sameKey]
    exact holds voice voiceMember voiceHeld (sameChannel.trans onChannel)
  · exact isKey

/-- If no voice is held, then only voices of a key are, whatever the key. -/
theorem weaken
    (holds : synth.HoldsOnly channel none)
    (key : Nat) :
    synth.HoldsOnly channel (some key) := by
  intro voice member held onChannel
  cases holds voice member held onChannel

variable [Transcendental]

/-- No further key of a channel is held after a call that presses none. -/
theorem act
    (holds : synth.HoldsOnly channel key?)
    (playable : synth.Playable configuration)
    (action : Action)
    (notPressed : ∀ key, ¬ action.presses channel key) :
    (synth.act action).HoldsOnly channel key? := by
  have spares :
      synth.Spares (fun origin => origin.note.channel = channel) action := by
    intro loader command started key velocity source preset isControl starts _
      sameChannel
    simp only at sameChannel
    have pressed := Command.presses_of_startNote starts
    apply notPressed key
    rw [isControl, ← sameChannel]
    exact pressed
  exact holds.of_wanes playable (act_wanes playable.wellFormed spares)
    fun _ onChannel => .inl onChannel

/-- Nor do any number of such calls. -/
theorem run
    (holds : synth.HoldsOnly channel key?)
    (playable : synth.Playable configuration)
    {actions : List Action}
    (notPressed : ∀ action ∈ actions, ∀ key, ¬ action.presses channel key) :
    (synth.run actions).HoldsOnly channel key? := by
  induction actions generalizing synth with
  | nil => exact holds
  | cons action rest inductionHypothesis =>
      rw [List.forall_mem_cons] at notPressed
      exact inductionHypothesis (holds.act playable action notPressed.1)
        (playable.act action) notPressed.2

/-- When the key that is held is released, none is held any more. -/
theorem noteOff
    {key : Nat}
    (holds : synth.HoldsOnly channel (some key))
    (playable : synth.Playable configuration)
    (channelValid : channel < configuration.channels)
    (keyValid : key ≤ 127) :
    (synth.noteOff channel key).synth.HoldsOnly channel none := by
  have released :
      (synth.noteOff channel key).synth.HoldsOnly channel (some key) :=
    holds.act playable (.control noFormatLoader (.noteOff channel key))
      (by simp [Action.presses, Command.presses])
  have valid : channel < synth.configuration.channels := by
    rw [playable.configured.sameConfiguration]
    exact channelValid
  intro voice member held onChannel
  have sameKey := released voice member held onChannel
  rw [noteOff_eq valid keyValid] at member
  refine absurd ?_ (VoicePool.not_isHeldBy_of_releaseKey member)
  simp only [Option.some.injEq] at sameKey
  simp [VoicePool.isHeldBy, held, onChannel, sameKey]

end HoldsOnly

/-- A key is refused without a change, or its note starts. -/
theorem noteOn_cases
    [Transcendental]
    (channel key velocity : Nat)
    (synth : Synth) :
    (∃ error, synth.noteOn channel key velocity = .rejected error synth) ∨
      channel < synth.configuration.channels ∧
        key ≤ 127 ∧
        (synth.noteOn channel key velocity).result = .ok () ∧
        (synth.noteOn channel key velocity).synth =
          ((Mutation.startNote channel key velocity).apply synth).reclaimed := by
  by_cases channelValid : channel < synth.configuration.channels
  · by_cases keyValid : key ≤ 127
    · by_cases velocityValid : 1 ≤ velocity ∧ velocity ≤ 127
      · refine .inr ⟨channelValid, keyValid, ?_, ?_⟩
        · simp [noteOn, onChannel, channelError?, onKey, complete, conclude,
            Nat.not_le.mpr channelValid, Nat.not_lt.mpr keyValid, velocityValid]
        · simp [noteOn, onChannel, channelError?, onKey, Mutation.apply,
            Nat.not_le.mpr channelValid, Nat.not_lt.mpr keyValid, velocityValid]
      · refine .inl ⟨.invalidVelocity velocity, ?_⟩
        simp [noteOn, onChannel, channelError?, onKey,
          Nat.not_le.mpr channelValid, Nat.not_lt.mpr keyValid, velocityValid]
    · refine .inl ⟨.invalidKey key, ?_⟩
      simp [noteOn, onChannel, channelError?, onKey,
        Nat.not_le.mpr channelValid, Nat.not_le.mp keyValid]
  · refine .inl ⟨.invalidChannel channel synth.configuration.channels, ?_⟩
    simp [noteOn, onChannel, channelError?, Nat.not_lt.mp channelValid]

/-- Where no key is held, only that of a new note can be. -/
theorem HoldsOnly.startNote
    [Transcendental]
    {configuration : SynthConfiguration}
    {channel : Nat}
    {synth : Synth}
    (holds : synth.HoldsOnly channel none)
    (playable : synth.Playable configuration)
    (key velocity : Nat) :
    ((Mutation.startNote channel key velocity).apply synth).HoldsOnly channel
      (some key) := by
  have wanes :
      synth.pool.Wanes (fun origin => origin.note.key ≠ key) 0
        ((Mutation.startNote channel key velocity).apply synth).pool := by
    apply mutation_wanes
    intro _ _ _ _ _ isNote _ otherKey
    cases isNote
    exact otherKey rfl
  apply (holds.weaken key).of_wanes playable wanes
  intro voice _
  by_cases sameKey : voice.key = key
  · exact .inr (congrArg some sameKey.symm)
  · exact .inl sameKey

end Synth

/-! ## What the helper's calls do -/

namespace Outcome

theorem andThen_synth_of_ok
    {first : Outcome First}
    {next : First → Synth → Outcome Second}
    {value : First}
    (succeeds : first.result = .ok value) :
    (first.andThen next).synth = (next value first.synth).synth := by
  simp [andThen, succeeds]

/-- What follows a call may leave the synthesizer alone, whatever it answers. -/
theorem andThen_synth
    {first : Outcome First}
    {next : First → Synth → Outcome Second}
    (keeps : ∀ value, (next value first.synth).synth = first.synth) :
    (first.andThen next).synth = first.synth := by
  cases result : first.result with
  | error error => simp [andThen, result]
  | ok value => rw [andThen_synth_of_ok result, keeps value]

end Outcome

namespace MonoNotes

/-- A helper that has released its key holds none. -/
theorem release_notes
    (notes : MonoNotes)
    (synth : Synth) :
    (notes.release synth).1 = { notes with current? := none } := by
  unfold release
  split <;> rfl

variable [Transcendental]

/-- To switch is to release, and then to press, if the release succeeds. -/
theorem switch_eq
    {notes : MonoNotes}
    {synth : Synth}
    (key : Nat)
    (released : (notes.release synth).2.result = .ok ()) :
    let started :=
      (notes.release synth).2.synth.noteOn notes.channel key notes.velocity
    (notes.switch key synth).2.result = started.result ∧
      (notes.switch key synth).2.synth = started.synth ∧
      (notes.switch key synth).1 =
        { notes with
          current? :=
            match started.result with
            | .ok _ => some key
            | .error _ => none } := by
  intro started
  have outcome :
      ((notes.release synth).2.andThen fun _ silent =>
          silent.noteOn notes.channel key notes.velocity) =
        { started with log := (notes.release synth).2.log ++ started.log } := by
    rw [Outcome.andThen, released]
  unfold switch
  simp only [release_notes, outcome]
  cases started.result <;> simp

/-- To set a font is to load it, and then to select or to unload it. -/
theorem exists_actions_setFont
    (loader : BankLoader)
    (path : String)
    (index : Nat)
    (notes : MonoNotes)
    (synth : Synth) :
    ∃ actions,
      (notes.setFont loader path index synth).synth = synth.run actions ∧
        ∀ action ∈ actions, ∀ channel key, ¬ action.presses channel key := by
  have presses
      (command : Command)
      (noNote : ∀ channel key, command.presses channel key = false) :
      ∀ action ∈ [.control loader (.load path false), .control loader command],
        ∀ channel key, ¬ Action.presses channel key action := by
    simp only [List.forall_mem_cons, Action.presses, noNote]
    simp [Command.presses]
  have onlyLoads
      (same :
        (notes.setFont loader path index synth).synth =
          (synth.load loader path false).synth) :
      ∃ actions,
        (notes.setFont loader path index synth).synth = synth.run actions ∧
          ∀ action ∈ actions, ∀ channel key, ¬ action.presses channel key :=
    ⟨[.control loader (.load path false)], same,
      by simp [Action.presses, Command.presses]⟩
  cases loaded : (synth.load loader path false).result with
  | error error =>
      apply onlyLoads
      simp [setFont, Outcome.andThen, loaded]
  | ok id =>
      cases found : (synth.load loader path false).synth.bank id with
      | error error =>
          apply onlyLoads
          rw [setFont, Outcome.andThen_synth_of_ok loaded]
          simp only [found, Outcome.rejected]
      | ok bank =>
          cases listed : bank.playablePresets[index]? with
          | none =>
              refine ⟨[.control loader (.load path false),
                .control loader (.unload id false)], ?_,
                presses _ fun _ _ => rfl⟩
              rw [setFont, Outcome.andThen_synth_of_ok loaded]
              simp only [found, listed]
              exact Outcome.andThen_synth fun _ => rfl
          | some preset =>
              refine ⟨[.control loader (.load path false),
                .control loader
                  (.programSelect notes.channel id preset.bankNumber
                    preset.program)], ?_,
                presses _ fun _ _ => rfl⟩
              rw [setFont, Outcome.andThen_synth_of_ok loaded]
              simp only [found, listed]
              exact Outcome.andThen_synth fun _ => rfl

end MonoNotes

namespace MonoSession

/--
The helper is on the channel, knows of all held voices there, and can release
the key that it holds.
-/
structure Single
    (configuration : SynthConfiguration)
    (channel : Nat)
    (session : MonoSession) : Prop where
  onChannel : session.notes.channel = channel
  playable : session.synth.Playable configuration
  holds : session.synth.HoldsOnly channel session.notes.current?
  valid :
    ∀ key,
      session.notes.current? = some key →
      channel < configuration.channels ∧ key ≤ 127

namespace Single

variable {configuration : SynthConfiguration} {channel : Nat}
  {session : MonoSession}

theorem new
    (configuration : SynthConfiguration)
    (channel velocity : Nat) :
    (MonoSession.new configuration channel velocity).Single configuration
      channel where
  onChannel := rfl
  playable := .new configuration
  holds := by
    intro voice member held
    rw [List.eq_of_mem_replicate member] at held
    cases held
  valid := by
    intro key holding
    cases holding

variable [Transcendental]

/-- A release succeeds, and leaves no voice of the channel held. -/
theorem released
    (single : session.Single configuration channel) :
    let outcome := (session.notes.release session.synth).2
    outcome.result = .ok () ∧
      outcome.synth.Playable configuration ∧
      outcome.synth.HoldsOnly channel none := by
  intro outcome
  cases holding : session.notes.current? with
  | none =>
      have unchanged : outcome = ⟨.ok (), session.synth, []⟩ := by
        simp [outcome, MonoNotes.release, holding]
      rw [unchanged]
      refine ⟨rfl, single.playable, ?_⟩
      rw [← holding]
      exact single.holds
  | some key =>
      obtain ⟨channelValid, keyValid⟩ := single.valid key holding
      have isNoteOff : outcome = session.synth.noteOff channel key := by
        simp [outcome, MonoNotes.release, holding, single.onChannel]
      have valid : channel < session.synth.configuration.channels := by
        rw [single.playable.configured.sameConfiguration]
        exact channelValid
      have holds := single.holds
      rw [holding] at holds
      rw [isNoteOff]
      refine ⟨?_, ?_, holds.noteOff single.playable channelValid keyValid⟩
      · rw [Synth.noteOff_eq valid keyValid]
        rfl
      · exact single.playable.act
          (.control noFormatLoader (.noteOff channel key))

/-- A switch leaves voices of its key held, or none if it is refused. -/
theorem switched
    (single : session.Single configuration channel)
    (key : Nat) :
    (session.step (.switch key)).Single configuration channel := by
  obtain ⟨succeeds, playable, holds⟩ := single.released
  obtain ⟨-, sameSynth, sameNotes⟩ :=
    MonoNotes.switch_eq key succeeds
  rw [single.onChannel] at sameSynth sameNotes
  rw [step_switch, sameSynth, sameNotes]
  generalize (session.notes.release session.synth).2.synth = silent
    at playable holds ⊢
  rcases silent.noteOn_cases channel key session.notes.velocity with
    ⟨error, refused⟩ | ⟨channelValid, keyValid, started, synth⟩
  · rw [refused]
    exact {
      onChannel := rfl
      playable := playable
      holds := holds
      valid := by
        intro other holding
        cases holding
    }
  · rw [started, synth]
    have mutated :=
      (Synth.Playable.invariant configuration).mutation
        (.startNote channel key session.notes.velocity) playable
    exact {
      onChannel := rfl
      playable :=
        (Synth.Playable.invariant configuration).drops List.nil_suffix mutated
      holds := holds.startNote playable key session.notes.velocity
      valid := by
        intro other holding
        cases holding
        rw [playable.configured.sameConfiguration] at channelValid
        exact ⟨channelValid, keyValid⟩
    }

/-- Every call keeps the helper informed. -/
theorem step
    (single : session.Single configuration channel)
    {call : MonoCall}
    (alone :
      ∀ action,
        call = .other action →
        ∀ key, ¬ action.presses channel key) :
    (session.step call).Single configuration channel := by
  cases call with
  | switch key => exact single.switched key
  | release =>
      obtain ⟨-, playable, holds⟩ := single.released
      rw [step_release, MonoNotes.release_notes]
      exact {
        onChannel := single.onChannel
        playable := playable
        holds := holds
        valid := by
          intro key holding
          cases holding
      }
  | setFont loader path index =>
      obtain ⟨actions, same, noNotes⟩ :=
        session.notes.exists_actions_setFont loader path index session.synth
      rw [step_setFont, same]
      exact {
        onChannel := single.onChannel
        playable :=
          (Synth.Playable.invariant configuration).run actions single.playable
        holds :=
          single.holds.run single.playable fun action member =>
            noNotes action member channel
        valid := single.valid
      }
  | other action =>
      have notPressed := alone action rfl
      exact {
        onChannel := single.onChannel
        playable := single.playable.act action
        holds := single.holds.act single.playable action notPressed
        valid := single.valid
      }

/-- The helper stays informed while nobody else presses keys on its channel. -/
theorem run
    (single : session.Single configuration channel)
    {calls : List MonoCall}
    (alone :
      ∀ action,
        .other action ∈ calls →
        ∀ key, ¬ action.presses channel key) :
    (session.run calls).Single configuration channel := by
  induction calls generalizing session with
  | nil => exact single
  | cons call rest inductionHypothesis =>
      have next : (session.step call).Single configuration channel :=
        single.step fun action isOther =>
          alone action (isOther ▸ List.mem_cons_self)
      exact inductionHypothesis next fun action member =>
        alone action (List.mem_cons_of_mem call member)

end Single

/-! ## Which key the helper holds -/

variable [Transcendental]

/-- Only switches and releases tell the helper which key to hold. -/
theorem step_notes_of_not_isNote
    {call : MonoCall}
    (notNote : ¬ call.isNote)
    (session : MonoSession) :
    (session.step call).notes = session.notes := by
  cases call with
  | switch key => exact absurd rfl notNote
  | release => exact absurd rfl notNote
  | setFont loader path index => rfl
  | other action => rfl

theorem run_notes_of_not_isNote
    {calls : List MonoCall}
    (noNotes : ∀ call ∈ calls, ¬ call.isNote)
    (session : MonoSession) :
    (session.run calls).notes = session.notes := by
  induction calls generalizing session with
  | nil => rfl
  | cons call rest inductionHypothesis =>
      rw [List.forall_mem_cons] at noNotes
      have later := inductionHypothesis noNotes.2 (session.step call)
      exact later.trans (step_notes_of_not_isNote noNotes.1 session)

/-- After a switch the helper holds the key if the switch has succeeded. -/
theorem step_switch_current?
    {configuration : SynthConfiguration}
    {channel key held : Nat}
    {session : MonoSession}
    (single : session.Single configuration channel) :
    (session.step (.switch key)).notes.current? = some held ↔
      held = key ∧ session.switches key := by
  obtain ⟨succeeds, -, -⟩ := single.released
  obtain ⟨sameResult, -, sameNotes⟩ :=
    MonoNotes.switch_eq key succeeds
  rw [step_switch, sameNotes, switches, sameResult]
  generalize (Synth.noteOn _ _ _ _).result = result
  cases result with
  | error error => simp
  | ok value => simp [eq_comm]

/-- The last switch has been to a key and has succeeded, and no release came. -/
def LastSwitchedTo
    (key : Nat)
    (calls : List MonoCall)
    (session : MonoSession) : Prop :=
  ∃ before after,
    calls = before ++ .switch key :: after ∧
      (∀ call ∈ after, ¬ call.isNote) ∧
      (session.run before).switches key

/-- The helper holds the key that it has switched to last, until a release. -/
theorem run_current?
    {configuration : SynthConfiguration}
    {channel key : Nat}
    {session : MonoSession}
    (single : session.Single configuration channel)
    (silent : session.notes.current? = none)
    {calls : List MonoCall}
    (alone :
      ∀ action,
        .other action ∈ calls →
        ∀ key, ¬ action.presses channel key) :
    (session.run calls).notes.current? = some key ↔
      session.LastSwitchedTo key calls := by
  constructor
  · -- The last call has told the helper the key, or the key was held before it.
    intro holding
    induction calls using List.reverseRecOn with
    | nil =>
        rw [run_nil, silent] at holding
        cases holding
    | append_singleton calls call inductionHypothesis =>
        have aloneBefore :
            ∀ action,
              .other action ∈ calls →
              ∀ key, ¬ action.presses channel key :=
          fun action member => alone action (List.mem_append_left _ member)
        have singleBefore := single.run aloneBefore
        rw [run_append, run_cons, run_nil] at holding
        by_cases isNote : call.isNote
        · cases call with
          | switch pressed =>
              obtain ⟨rfl, succeeds⟩ :=
                (step_switch_current? singleBefore).mp holding
              exact ⟨calls, [], rfl, by simp, succeeds⟩
          | release =>
              rw [step_release, MonoNotes.release_notes] at holding
              cases holding
          | setFont loader path index => cases isNote
          | other action => cases isNote
        · have same := step_notes_of_not_isNote isNote (session.run calls)
          rw [same] at holding
          obtain ⟨before, after, shape, noNotes, succeeds⟩ :=
            inductionHypothesis aloneBefore holding
          refine ⟨before, after ++ [call], by simp [shape], ?_, succeeds⟩
          intro other member
          rcases List.mem_append.mp member with earlier | isLast
          · exact noNotes other earlier
          · rw [List.mem_singleton.mp isLast]
            exact isNote
  · rintro ⟨before, after, rfl, noNotes, succeeds⟩
    have singleBefore :=
      single.run fun action member =>
        alone action (List.mem_append_left _ member)
    rw [run_append, run_cons, run_notes_of_not_isNote noNotes]
    exact (step_switch_current? singleBefore).mpr ⟨rfl, succeeds⟩

/--
At every point of a session in which only the helper presses keys on its
channel, every held voice of the channel is of the key that the helper holds; so
there is none if it holds no key.  The helper holds the key that it was switched
to last with success, until it is told to release it, which always succeeds.
-/
theorem run_plays_single_notes
    (configuration : SynthConfiguration)
    {channel : Nat}
    (velocity : Nat)
    {calls : List MonoCall}
    (alone :
      ∀ action,
        .other action ∈ calls →
        ∀ key, ¬ action.presses channel key) :
    let start := new configuration channel velocity
    let session := start.run calls
    (∀ voice ∈ session.synth.pool.voices,
      voice.state = .attacking ∨ voice.state = .sustaining →
      voice.channel = channel →
      session.notes.current? = some voice.key) ∧
      (∀ key,
        session.notes.current? = some key ↔ start.LastSwitchedTo key calls) ∧
      (session.notes.release session.synth).2.result = .ok () := by
  intro start session
  have initially : start.Single configuration channel :=
    .new configuration channel velocity
  have single : session.Single configuration channel := initially.run alone
  refine ⟨?_, fun key => run_current? initially rfl alone, single.released.1⟩
  intro voice member held onChannel
  exact single.holds voice member (by simpa [Voice.isHeld] using held) onChannel

end MonoSession

namespace MonoSession

open SharedEngine (clickBank soloConfiguration)

/-- Two channels and three voices. -/
def melodyConfiguration : SynthConfiguration :=
  { soloConfiguration with channels := 2, polyphony := 3 }

/-- A note, the same key on another channel, a missing key, and a last note. -/
def melody : List MonoCall :=
  [.other (.control (fun _ => .loaded clickBank) (.addBank clickBank true)),
    .switch 60,
    .other (.control (fun _ => .loaded clickBank) (.noteOn 1 60 100)),
    .switch 200,
    .other (.control (fun _ => .loaded clickBank) (.programChange 0 0)),
    .switch 62]

theorem melody_plays_single_notes :
    let session := (new melodyConfiguration 0 100).run melody
    (∀ action, .other action ∈ melody → ∀ key, ¬ action.presses 0 key) ∧
      session.notes.current? = some 62 ∧
      session.synth.pool.states = [.releasing, .attacking, .attacking] ∧
      (∀ voice ∈ session.synth.pool.voices,
        voice.state = .attacking ∨ voice.state = .sustaining →
        voice.channel = 0 →
        session.notes.current? = some voice.key) ∧
      (session.notes.release session.synth).2.result = .ok () := by
  have alone :
      ∀ action, .other action ∈ melody → ∀ key, ¬ action.presses 0 key := by
    simp [melody, Action.presses, Command.presses]
  obtain ⟨onlyKey, -, releases⟩ :=
    run_plays_single_notes melodyConfiguration 100 alone
  exact ⟨alone, by decide +kernel, by decide +kernel, onlyKey, releases⟩

end MonoSession

end Polyphony.Engine
