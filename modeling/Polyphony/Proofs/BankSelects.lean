import Polyphony.Proofs.Independence

namespace Polyphony.Engine

/-!
# Bank selects wait

A bank select sets the number of the bank in which a channel will look for its
next program, and leaves the channel the preset that it plays.  Two sessions
that differ in bank selects of one channel therefore agree on all others.  They
agree on that channel too, for as long as nothing looks for its program: a
program change does, and so does a bank that comes or goes where channels are to
follow it.
-/

open Instrument (BankId)
open Number (Transcendental)
open SoundFont (BankLoader)

/-! ## Sessions apart in bank selects -/

/-- Whether a command selects a bank number on a channel. -/
def Command.selectsBank
    (channel : Nat) :
    Command → Bool
  | .controlChange changed controller _
  | .midi (.controlChange changed controller _) =>
      changed = channel && controller % 128 = Controller.bankSelect
  | _ => false

/-- Whether a call selects a bank number on a channel. -/
def Action.selectsBank
    (channel : Nat) :
    Action → Bool
  | .control _ command => command.selectsBank channel
  | .render _ => false
  | .renderSamples _ => false

/-- Whether a command gives a channel another program. -/
def Command.changesProgram
    (channel : Nat) :
    Command → Bool
  | .programChange changed _
  | .midi (.programChange changed _) => changed = channel
  | _ => false

/-- Whether a call gives a channel another program. -/
def Action.changesProgram
    (channel : Nat) :
    Action → Bool
  | .control _ command => command.changesProgram channel
  | .render _ => false
  | .renderSamples _ => false

/-- Two sessions differ in bank selects of a channel, and in nothing else. -/
inductive ApartInBankSelects
    (channel : Nat) :
    List Action → List Action → Prop where
  | nil : ApartInBankSelects channel [] []
  | both {first second : List Action} (action : Action) :
      ApartInBankSelects channel first second →
      ApartInBankSelects channel (action :: first) (action :: second)
  | first {first second : List Action} {action : Action} :
      action.selectsBank channel →
      ApartInBankSelects channel first second →
      ApartInBankSelects channel (action :: first) second
  | second {first second : List Action} {action : Action} :
      action.selectsBank channel →
      ApartInBankSelects channel first second →
      ApartInBankSelects channel first (action :: second)

/-! ## Banks that come and go -/

/--
Whether a channel follows a bank that comes or goes: a bank that comes is
offered to a channel without a selected preset, and one that goes leaves the
channels that play it to a search.
-/
def Channel.follows
    (channel : Channel) :
    Mutation → Bool
  | .publish _ updatePresets => updatePresets && !channel.binding.isSelected
  | .withdraw id updatePresets => updatePresets && channel.playsFrom id
  | _ => false

namespace Synth

/-- Whether the channel of a number follows a bank that a call loads or unloads. -/
def followsBank
    (number : Nat)
    (action : Action)
    (synth : Synth) :
    Bool :=
  match action with
  | .control loader command =>
      (command.mutation? loader synth).any fun mutation =>
        synth.channels[number]?.any fun channel => channel.follows mutation
  | .render _ => false
  | .renderSamples _ => false

/-- Whether the channel of a number follows no bank throughout a session. -/
def followsNoBank
    [Transcendental]
    (number : Nat) :
    List Action → Synth → Bool
  | [], _ => true
  | action :: rest, synth =>
      !synth.followsBank number action &&
        followsNoBank number rest (synth.act action)

end Synth

/-! ## What becomes of the channel -/

namespace Channel

/-- What a channel plays: the program that it wants, and its preset. -/
def playing (channel : Channel) : Nat × Binding :=
  (channel.program, channel.binding)

variable {first second : Channel}

/-- A controller does not change what a channel plays. -/
theorem playing_controlled
    (controller value : Nat)
    (channel : Channel) :
    (channel.controlled controller value).playing = channel.playing := by
  unfold controlled
  split
  · rfl
  · split
    · rfl
    · unfold setController
      split <;> rfl

/-- A selected preset is not given up for one of a new bank. -/
theorem offered_of_isSelected
    {channel : Channel}
    (selected : channel.binding.isSelected)
    (entry : BankReference) :
    channel.offered entry = channel := by
  have refused : channel.takeover? entry = none := by
    simp only [takeover?, Option.filter_eq_none_iff]
    intro found _
    simp [accepts, selected]
  simp [offered, refused]

/-- A preset that is asked for is found by its address alone. -/
theorem playing_asked
    (same : first.playing = second.playing)
    (id : BankId)
    (bankNumber program : Nat)
    (banks : BankTable) :
    (first.asked id bankNumber program banks).playing =
      (second.asked id bankNumber program banks).playing := by
  unfold asked
  split
  · rfl
  · exact same

/-- Channels that lose a bank play nothing, if they do not search. -/
theorem playing_bereft
    (same : first.playing = second.playing)
    {id : BankId}
    {updatePresets : Bool}
    (stays : ¬ first.follows (.withdraw id updatePresets))
    (remaining : BankTable) :
    (first.bereft id updatePresets remaining).playing =
      (second.bereft id updatePresets remaining).playing := by
  obtain ⟨sameProgram, sameBinding⟩ := Prod.mk.inj same
  have samePlaysFrom : second.playsFrom id = first.playsFrom id := by
    simp [playsFrom, sameBinding]
  unfold bereft
  rw [samePlaysFrom]
  split
  · rename_i plays
    have notUpdated : updatePresets = false := by
      simpa [follows, plays] using stays
    simp [notUpdated, playing, resolveTo, sameProgram]
  · exact same

end Channel

/--
Two channels of one number that play the same go on doing so, unless they follow
a bank or change their program.
-/
theorem Mutation.playing_channelAfter
    {first second : Channel}
    {mutation : Mutation}
    {number : Nat}
    (same : first.playing = second.playing)
    (stays : ¬ first.follows mutation)
    (sameProgram : ∀ program, mutation ≠ .changeProgram number program)
    (banks : BankTable) :
    (mutation.channelAfter banks number first).playing =
      (mutation.channelAfter banks number second).playing := by
  cases mutation with
  | publish bank updatePresets =>
      cases updatePresets with
      | false => exact same
      | true =>
          have selected : first.binding.isSelected := by
            simpa [Channel.follows] using stays
          have sameBinding := (Prod.mk.inj same).2
          cases inserted : banks.insert bank with
          | error error =>
              simp only [channelAfter, inserted]
              exact same
          | ok result =>
              simp only [channelAfter, inserted]
              rw [Channel.offered_of_isSelected selected,
                Channel.offered_of_isSelected (sameBinding ▸ selected)]
              exact same
  | withdraw id updatePresets =>
      cases removed : banks.remove? id with
      | none =>
          simp only [channelAfter, removed]
          exact same
      | some result =>
          simp only [channelAfter, removed]
          exact Channel.playing_bereft same stays _
  | selectProgram channel id bankNumber program =>
      simp only [channelAfter]
      split
      · exact Channel.playing_asked same id bankNumber program banks
      · exact same
  | changeProgram channel program =>
      have other : channel ≠ number := by
        intro isNumber
        exact sameProgram program (by rw [isNumber])
      simp only [channelAfter, other, if_false]
      exact same
  | startNote channel key velocity => exact same
  | releaseKey channel key => exact same
  | releaseChannel channel? => exact same
  | forceReleaseChannel channel? => exact same
  | applyController channel controller value =>
      simp only [channelAfter]
      split
      · simp only [Channel.playing_controlled, same]
      · exact same
  | bendPitch channel value =>
      simp only [channelAfter]
      split
      · exact same
      · exact same

/-- A program change of a channel is asked for by a program change there. -/
theorem Command.changesProgram_of_changeProgram
    {loader : BankLoader}
    {command : Command}
    {synth : Synth}
    {channel program : Nat}
    (changes :
      command.mutation? loader synth = some (.changeProgram channel program)) :
    command.changesProgram channel := by
  generalize asked : Mutation.changeProgram channel program = mutation at changes
  cases Command.asksFor changes with
  | programChange channel program =>
      cases asked
      exact decide_eq_true rfl
  | programEvent channel program =>
      cases asked
      exact decide_eq_true rfl
  | _ => cases asked

/-- A bank select is about the channel that it selects a bank number on. -/
theorem Command.ownChannel?_of_selectsBank
    {command : Command}
    {channel : Nat}
    (selects : command.selectsBank channel) :
    command.ownChannel? = some channel := by
  unfold selectsBank at selects
  split at selects
  · simp_all [ownChannel?]
  · simp_all [ownChannel?]
  · cases selects

/-- A bank select moves a controller of its channel. -/
theorem Command.applyController_of_selectsBank
    {loader : BankLoader}
    {command : Command}
    {mutation : Mutation}
    {synth : Synth}
    {channel : Nat}
    (selects : command.selectsBank channel)
    (carriedOut : command.mutation? loader synth = some mutation) :
    ∃ controller value, mutation = .applyController channel controller value := by
  have own := Command.ownChannel?_of_selectsBank selects
  cases Command.asksFor carriedOut with
  | controlChange changed controller value =>
      cases own
      exact ⟨controller, value, rfl⟩
  | controlEvent changed controller value =>
      cases own
      exact ⟨controller, value, rfl⟩
  | _ => cases selects

/-! ## What becomes of two sessions -/

namespace Synth

/-- Two synthesizers have the same banks, and the same channels beside one. -/
structure AgreesBeside
    (channel : Nat)
    (first second : Synth) : Prop where
  configuration : first.configuration = second.configuration
  banks : first.banks = second.banks
  channels :
    ∀ number ≠ channel, first.channels[number]? = second.channels[number]?

/-- What the channel of a number plays, if it is there. -/
def playingOn?
    (channel : Nat)
    (synth : Synth) :
    Option (Nat × Binding) :=
  synth.channels[channel]?.map Channel.playing

/-- What a channel is bound to is part of what it plays. -/
theorem binding_eq
    (channel : Nat)
    (synth : Synth) :
    synth.binding channel =
      match synth.playingOn? channel with
      | some (_, binding) => .ok binding
      | none => .error (.invalidChannel channel synth.configuration.channels) := by
  unfold binding playingOn?
  cases synth.channels[channel]? <;> rfl

namespace AgreesBeside

variable {channel : Nat} {first second third : Synth}

theorem refl
    (channel : Nat)
    (synth : Synth) :
    synth.AgreesBeside channel synth :=
  ⟨rfl, rfl, fun _ _ => rfl⟩

theorem symm (agrees : first.AgreesBeside channel second) :
    second.AgreesBeside channel first where
  configuration := agrees.configuration.symm
  banks := agrees.banks.symm
  channels := fun number other => (agrees.channels number other).symm

theorem trans
    (agrees : first.AgreesBeside channel second)
    (next : second.AgreesBeside channel third) :
    first.AgreesBeside channel third where
  configuration := agrees.configuration.trans next.configuration
  banks := agrees.banks.trans next.banks
  channels := fun number other =>
    (agrees.channels number other).trans (next.channels number other)

variable [Transcendental]

/-- What one mutation makes of both is the same beside the channel. -/
theorem mutation
    (agrees : first.AgreesBeside channel second)
    (mutation : Mutation) :
    (mutation.apply first).AgreesBeside channel (mutation.apply second) where
  configuration := by
    rw [(mutation.apply_frame first).1, (mutation.apply_frame second).1,
      agrees.configuration]
  banks := by
    rw [mutation.banks_apply, mutation.banks_apply, agrees.banks]
  channels := by
    intro number other
    rw [mutation.channels_apply, mutation.channels_apply, agrees.banks,
      agrees.channels number other]

/-- Rendering changes neither channels nor banks. -/
theorem rendered
    (agrees : first.AgreesBeside channel second)
    (frames : Nat) :
    (first.render frames).2.AgreesBeside channel (second.render frames).2 := by
  rw [render, render, renderBlocks_eq, renderBlocks_eq _ second]
  exact ⟨agrees.configuration, agrees.banks, agrees.channels⟩

/-- What one call makes of both is the same beside the channel. -/
theorem act
    (agrees : first.AgreesBeside channel second)
    (action : Action) :
    (first.act action).AgreesBeside channel (second.act action) := by
  cases action with
  | control loader command =>
      simp only [Synth.act, perform_synth]
      rw [command.mutation?_congr agrees.configuration]
      cases command.mutation? loader second with
      | none => exact agrees
      | some mutation =>
          have mutated := agrees.mutation mutation
          exact ⟨mutated.configuration, mutated.banks, mutated.channels⟩
  | render frames => exact agrees.rendered frames
  | renderSamples frames =>
      have rendered := agrees.rendered frames
      exact ⟨rendered.configuration, rendered.banks, rendered.channels⟩

end AgreesBeside

/-- A mutation leaves the channel of two playing the same, if it stays. -/
theorem playingOn?_mutation
    [Transcendental]
    {channel : Nat}
    {first second : Synth}
    {mutation : Mutation}
    (banks : first.banks = second.banks)
    (same : first.playingOn? channel = second.playingOn? channel)
    (stays :
      ∀ entry,
        first.channels[channel]? = some entry →
        ¬ entry.follows mutation)
    (sameProgram : ∀ program, mutation ≠ .changeProgram channel program) :
    (mutation.apply first).playingOn? channel =
      (mutation.apply second).playingOn? channel := by
  unfold playingOn? at same ⊢
  rw [mutation.channels_apply, mutation.channels_apply, banks]
  cases present : first.channels[channel]? with
  | none =>
      rw [present, Option.map_none, eq_comm, Option.map_eq_none_iff] at same
      simp [same]
  | some entry =>
      rw [present, Option.map_some, eq_comm, Option.map_eq_some_iff] at same
      obtain ⟨other, otherPresent, samePlaying⟩ := same
      simp only [otherPresent, Option.map_some]
      exact congrArg some
        (Mutation.playing_channelAfter samePlaying.symm (stays entry present)
          sameProgram second.banks)

variable [Transcendental] {channel : Nat} {first second : Synth}

@[simp] theorem playingOn?_rendered
    (frames : Nat)
    (synth : Synth) :
    (synth.render frames).2.playingOn? channel =
      synth.playingOn? channel := by
  rw [render, renderBlocks_eq]
  rfl

/-- A call leaves the channel of two playing the same, if it stays. -/
theorem playingOn?_act
    {action : Action}
    (agrees : first.AgreesBeside channel second)
    (same : first.playingOn? channel = second.playingOn? channel)
    (sameProgram : ¬ action.changesProgram channel)
    (stays : ¬ first.followsBank channel action) :
    (first.act action).playingOn? channel =
      (second.act action).playingOn? channel := by
  cases action with
  | control loader command =>
      simp only [act, perform_synth]
      rw [← command.mutation?_congr agrees.configuration]
      cases carriedOut : command.mutation? loader first with
      | none => exact same
      | some mutation =>
          refine playingOn?_mutation agrees.banks same ?_ ?_
          · intro entry present follows
            apply stays
            simp [followsBank, carriedOut, present, follows]
          · intro program isChange
            rw [isChange] at carriedOut
            exact sameProgram
              (Command.changesProgram_of_changeProgram carriedOut)
  | render frames =>
      simp only [act, playingOn?_rendered, same]
  | renderSamples frames =>
      have rendered :
          (first.render frames).2.playingOn? channel =
            (second.render frames).2.playingOn? channel := by
        simp only [playingOn?_rendered, same]
      exact rendered

/-- A bank select changes nothing beside its channel, nor what that plays. -/
theorem act_of_selectsBank
    {action : Action}
    (selects : action.selectsBank channel)
    (synth : Synth) :
    (synth.act action).AgreesBeside channel synth ∧
      (synth.act action).playingOn? channel = synth.playingOn? channel := by
  cases action with
  | render frames => cases selects
  | renderSamples frames => cases selects
  | control loader command =>
      have untouched : synth.UntouchedBeside channel _ :=
        .perform (Command.ownChannel?_of_selectsBank selects) loader synth
      refine ⟨⟨untouched.configuration, untouched.banks, untouched.channels⟩, ?_⟩
      rw [act, perform_synth]
      cases carriedOut : command.mutation? loader synth with
      | none => rfl
      | some mutation =>
          obtain ⟨controller, value, rfl⟩ :=
            Command.applyController_of_selectsBank selects carriedOut
          change Option.map _ (Mutation.apply _ synth).channels[channel]? = _
          rw [Mutation.channels_apply, Option.map_map]
          simp only [Mutation.channelAfter, if_true]
          exact congrArg (Option.map · synth.channels[channel]?)
            (funext (Channel.playing_controlled controller value))

/-- The bank selects of a channel are of no account for the others. -/
theorem run_agreesBeside
    {actions others : List Action}
    (apart : ApartInBankSelects channel actions others)
    (agrees : first.AgreesBeside channel second) :
    (first.run actions).AgreesBeside channel (second.run others) := by
  induction apart generalizing first second with
  | nil => exact agrees
  | both action _ inductionHypothesis =>
      exact inductionHypothesis (agrees.act action)
  | first selects _ inductionHypothesis =>
      exact inductionHypothesis
        ((act_of_selectsBank selects first).1.trans agrees)
  | second selects _ inductionHypothesis =>
      exact inductionHypothesis
        (agrees.trans (act_of_selectsBank selects second).1.symm)

/-- A channel that stays plays the same, whatever bank selects it has got. -/
theorem run_playingOn?
    {actions others : List Action}
    (apart : ApartInBankSelects channel actions others)
    (agrees : first.AgreesBeside channel second)
    (same : first.playingOn? channel = second.playingOn? channel)
    (sameProgram : ∀ action ∈ actions, ¬ action.changesProgram channel)
    (stays : first.followsNoBank channel actions) :
    (first.run actions).playingOn? channel =
      (second.run others).playingOn? channel := by
  induction apart generalizing first second with
  | nil => exact same
  | both action _ inductionHypothesis =>
      rw [List.forall_mem_cons] at sameProgram
      rw [followsNoBank, Bool.and_eq_true] at stays
      have stays' : ¬ first.followsBank channel action := by
        simpa using stays.1
      exact inductionHypothesis (agrees.act action)
        (playingOn?_act agrees same sameProgram.1 stays') sameProgram.2 stays.2
  | first selects _ inductionHypothesis =>
      rw [List.forall_mem_cons] at sameProgram
      rw [followsNoBank, Bool.and_eq_true] at stays
      obtain ⟨beside, playing⟩ := act_of_selectsBank selects first
      exact inductionHypothesis (beside.trans agrees) (playing.trans same)
        sameProgram.2 stays.2
  | second selects _ inductionHypothesis =>
      obtain ⟨beside, playing⟩ := act_of_selectsBank selects second
      exact inductionHypothesis (agrees.trans beside.symm)
        (same.trans playing.symm) sameProgram stays

/--
Of two sessions that start alike and differ in bank selects of one channel, all
other channels are alike at the end, and so at every point.  Both bind the
channel itself alike if no call gives it another program, and none makes it
follow a bank that comes or goes.
-/
theorem run_bank_selects_wait
    {actions others : List Action}
    (apart : ApartInBankSelects channel actions others)
    (synth : Synth) :
    let one := synth.run actions
    let other := synth.run others
    (∀ number ≠ channel,
      one.channels[number]? = other.channels[number]? ∧
        one.binding number = other.binding number) ∧
      ((∀ action ∈ actions, ¬ action.changesProgram channel) →
        synth.followsNoBank channel actions →
        one.binding channel = other.binding channel) := by
  intro one other
  have agrees : one.AgreesBeside channel other :=
    run_agreesBeside apart (.refl channel synth)
  refine ⟨fun number beside => ?_, fun sameProgram stays => ?_⟩
  · have same := agrees.channels number beside
    refine ⟨same, ?_⟩
    rw [binding, binding, same, agrees.configuration]
  · have same : one.playingOn? channel = other.playingOn? channel :=
      run_playingOn? apart (.refl channel synth) rfl sameProgram stays
    rw [binding_eq, binding_eq, same, agrees.configuration]

end Synth

namespace Synth

open Instrument (Bank)
open SharedEngine (clickBank soloConfiguration)

/-- The click under two bank numbers. -/
def doubleBank : Bank where
  name := "double"
  samples := clickBank.samples
  presets :=
    [⟨"low", 0, 0, [.playing (.spanning 0 4 44100)]⟩,
      ⟨"high", 8, 0, [.playing (.spanning 0 4 44100)]⟩]
  faultFree := by decide

/-- The second bank number of the double bank is selected. -/
def selectingHigh : Action :=
  .control (fun _ => .loaded doubleBank) (.controlChange 0 0 8)

/-- The double bank is loaded, and channels may follow it. -/
def loadingDouble : Action :=
  .control (fun _ => .loaded doubleBank) (.addBank doubleBank true)

/-- Other banks come and go, and a key plays the preset that was selected. -/
def goingOn : List Action :=
  [loadingDouble, .control (fun _ => .loaded doubleBank) (.noteOn 0 60 100),
    .render 64, .control (fun _ => .loaded doubleBank) (.unload ⟨2⟩ true)]

theorem selected_preset_outlasts_bank_select :
    let synth :=
      (Synth.new { soloConfiguration with maxBanks := 2 }).run
        [loadingDouble,
          .control (fun _ => .loaded doubleBank) (.programSelect 0 ⟨1⟩ 0 0)]
    ApartInBankSelects 0 (selectingHigh :: goingOn) goingOn ∧
      (∀ action ∈ selectingHigh :: goingOn, ¬ action.changesProgram 0) ∧
      synth.followsNoBank 0 (selectingHigh :: goingOn) ∧
      ((synth.run goingOn).binding 0).toOption = some (.selected ⟨1⟩ 0) ∧
      (synth.run (selectingHigh :: goingOn)).binding 0 =
        (synth.run goingOn).binding 0 := by
  intro synth
  have apart : ApartInBankSelects 0 (selectingHigh :: goingOn) goingOn :=
    .first rfl (.both _ (.both _ (.both _ (.both _ .nil))))
  have sameProgram :
      ∀ action ∈ selectingHigh :: goingOn, ¬ action.changesProgram 0 := by
    simp [selectingHigh, goingOn, loadingDouble, Action.changesProgram,
      Command.changesProgram]
  have stays : synth.followsNoBank 0 (selectingHigh :: goingOn) := by
    decide +kernel
  exact ⟨apart, sameProgram, stays, by decide +kernel,
    (run_bank_selects_wait apart synth).2 sameProgram stays⟩

/--
Without a selected preset, a bank select does not wait for a program change: a
bank that is loaded is searched for the new number.
-/
theorem not_bank_selects_wait_for_program_change :
    ¬ ∀ (channel : Nat) (actions others : List Action) (synth : Synth),
      ApartInBankSelects channel actions others →
      (∀ action ∈ actions ++ others, ¬ action.changesProgram channel) →
      (synth.run actions).binding channel =
        (synth.run others).binding channel := by
  intro waits
  have same :=
    waits 0 [selectingHigh, loadingDouble] [loadingDouble]
      (Synth.new soloConfiguration) (.first rfl (.both _ .nil))
      (by simp [selectingHigh, loadingDouble, Action.changesProgram,
        Command.changesProgram])
  exact absurd (congrArg Except.toOption same) (by decide +kernel)

end Synth

end Polyphony.Engine
