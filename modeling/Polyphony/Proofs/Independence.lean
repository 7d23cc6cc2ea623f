import Polyphony.Proofs.ChannelCourse
import Polyphony.Proofs.Fading
import Polyphony.Proofs.QueueRoom

namespace Polyphony.Engine

/-!
# Channels are independent

All channels share the voices.  Still a call on one channel reaches only that
channel and the voices that sound on it: free voices are left alone, though they
keep the number of the channel that they were on last.  So calls on different
channels can be made in either order.
-/

open Instrument (BankId)
open Number (Transcendental)
open SoundFont (BankLoader)

/-- The one channel that a command is about, unless it presses a key there. -/
def Command.ownChannel? : Command → Option Nat
  | .noteOff channel _
  | .controlChange channel _ _
  | .pitchBend channel _
  | .programSelect channel _ _ _
  | .programChange channel _
  | .midi (.noteOff channel _ _)
  | .midi (.controlChange channel _ _)
  | .midi (.pitchBend channel _)
  | .midi (.programChange channel _) => some channel
  | .allNotesOff channel?
  | .allSoundsOff channel? => channel?
  | _ => none

/-- The one channel that a mutation is about, unless it starts a note there. -/
def Mutation.ownChannel? : Mutation → Option Nat
  | .selectProgram channel _ _ _
  | .changeProgram channel _
  | .releaseKey channel _
  | .applyController channel _ _
  | .bendPitch channel _ => some channel
  | .releaseChannel channel?
  | .forceReleaseChannel channel? => channel?
  | .publish _ _
  | .withdraw _ _
  | .startNote _ _ _ => none

/-- The mutation of a command is about the channel that the command is about. -/
theorem Command.ownChannel?_of_mutation?
    {loader : BankLoader}
    {command : Command}
    {channel : Nat}
    {mutation : Mutation}
    {synth : Synth}
    (own : command.ownChannel? = some channel)
    (carriedOut : command.mutation? loader synth = some mutation) :
    mutation.ownChannel? = some channel := by
  rw [← own]
  cases asksFor carriedOut <;> rfl

/-! ## What a call does to the voices -/

/-- A change that a call on one channel may make to the voices. -/
structure Voice.StaysOn
    (channel : Nat)
    (change : Voice → Voice) : Prop where
  elsewhere :
    ∀ voice : Voice,
      voice.isFree ∨ voice.channel ≠ channel →
      change voice = voice
  sameChannel : ∀ voice : Voice, (change voice).channel = voice.channel

namespace Voice.StaysOn

/-- A call may leave all voices alone. -/
theorem unchanged (channel : Nat) : Voice.StaysOn channel id where
  elsewhere := fun _ _ => rfl
  sameChannel := fun _ => rfl

/-- Voices that sound on a channel may be changed, if they stay there. -/
theorem changeWhere
    {channel : Nat}
    {condition : Voice → Bool}
    {change : Voice → Voice}
    (sounding :
      ∀ voice : Voice,
        condition voice →
        ¬ voice.isFree ∧ voice.channel = channel)
    (sameOrigin : ∀ voice : Voice, (change voice).origin = voice.origin) :
    Voice.StaysOn channel fun voice =>
      if condition voice then change voice else voice where
  elsewhere := by
    intro voice outside
    have unmet : ¬ condition voice := by
      intro met
      obtain ⟨notFree, onChannel⟩ := sounding voice met
      rcases outside with free | other
      · exact notFree free
      · exact other onChannel
    simp [unmet]
  sameChannel := by
    intro voice
    split
    · exact congrArg (·.note.channel) (sameOrigin voice)
    · rfl

/-- Changes to the voices of two channels can be made in either order. -/
theorem comm
    {first second : Nat}
    {change otherChange : Voice → Voice}
    (stays : Voice.StaysOn first change)
    (otherStays : Voice.StaysOn second otherChange)
    (different : first ≠ second)
    (voice : Voice) :
    otherChange (change voice) = change (otherChange voice) := by
  by_cases onFirst : voice.channel = first
  · have notOnSecond : voice.channel ≠ second := by
      rw [onFirst]
      exact different
    have stillNotOnSecond : (change voice).channel ≠ second := by
      rw [stays.sameChannel]
      exact notOnSecond
    rw [otherStays.elsewhere voice (.inr notOnSecond),
      otherStays.elsewhere _ (.inr stillNotOnSecond)]
  · have stillNotOnFirst : (otherChange voice).channel ≠ first := by
      rw [otherStays.sameChannel]
      exact onFirst
    rw [stays.elsewhere voice (.inr onFirst),
      stays.elsewhere _ (.inr stillNotOnFirst)]

end Voice.StaysOn

namespace VoicePool

/-- Work on a pool that changes voices of one channel, each for itself. -/
def WorksOn
    (channel : Nat)
    (work : VoicePool → VoicePool) : Prop :=
  ∃ change,
    Voice.StaysOn channel change ∧
      ∀ pool : VoicePool,
        work pool = { pool with voices := pool.voices.map change }

theorem worksOn_nothing (channel : Nat) : WorksOn channel id :=
  ⟨id, .unchanged channel, fun pool => by simp⟩

/-- The voices that a key holds are on its channel. -/
theorem worksOn_releaseKey
    (channel key : Nat) :
    WorksOn channel (·.releaseKey channel key) := by
  refine ⟨_, Voice.StaysOn.changeWhere ?_ Voice.origin_release, fun _ => rfl⟩
  intro voice heldBy
  simp only [isHeldBy, Bool.and_eq_true, decide_eq_true_eq] at heldBy
  obtain ⟨⟨held, onChannel⟩, -⟩ := heldBy
  exact ⟨Voice.not_isFree_of_isHeld held, onChannel⟩

theorem worksOn_releaseChannel (channel : Nat) :
    WorksOn channel (·.releaseChannel (some channel)) := by
  refine ⟨_, Voice.StaysOn.changeWhere ?_ Voice.origin_release, fun _ => rfl⟩
  intro voice heldThere
  simp only [isOn, Option.all_some, Bool.and_eq_true, decide_eq_true_eq]
    at heldThere
  exact ⟨Voice.not_isFree_of_isHeld heldThere.1, heldThere.2⟩

theorem worksOn_forceReleaseChannel
    (channel : Nat)
    (seconds : Float32) :
    WorksOn channel (·.forceReleaseChannel (some channel) seconds) := by
  refine ⟨_,
    Voice.StaysOn.changeWhere ?_ (Voice.origin_forceRelease seconds),
    fun _ => rfl⟩
  intro voice soundingThere
  simpa [isOn] using soundingThere

end VoicePool

/-! ## What a call on one channel leaves alone -/

namespace Mutation

variable {channel : Nat} {mutation : Mutation}

/-- A mutation of one channel makes nothing of the others. -/
theorem channelAfter_of_ne
    (own : mutation.ownChannel? = some channel)
    {number : Nat}
    (other : number ≠ channel)
    (banks : BankTable) :
    mutation.channelAfter banks number = id := by
  cases mutation with
  | publish bank updatePresets => cases own
  | withdraw id updatePresets => cases own
  | startNote channel key velocity => cases own
  | releaseKey channel key => rfl
  | releaseChannel channel? => rfl
  | forceReleaseChannel channel? => rfl
  | selectProgram changed id bankNumber program =>
      cases own
      exact if_neg other.symm
  | changeProgram changed program =>
      cases own
      exact if_neg other.symm
  | applyController changed controller value =>
      cases own
      exact if_neg other.symm
  | bendPitch changed value =>
      cases own
      exact if_neg other.symm

variable [Transcendental]

/-- The work of a mutation of one channel on the voices. -/
theorem exists_work
    (own : mutation.ownChannel? = some channel) :
    ∃ work,
      VoicePool.WorksOn channel work ∧
        ∀ synth : Synth, (mutation.apply synth).pool = work synth.pool := by
  have nothing
      (same : ∀ synth : Synth, (mutation.apply synth).pool = synth.pool) :
      ∃ work,
        VoicePool.WorksOn channel work ∧
          ∀ synth : Synth, (mutation.apply synth).pool = work synth.pool :=
    ⟨id, VoicePool.worksOn_nothing channel, same⟩
  cases mutation with
  | publish bank updatePresets => cases own
  | withdraw id updatePresets => cases own
  | startNote channel key velocity => cases own
  | selectProgram changed id bankNumber program =>
      apply nothing
      intro synth
      rw [apply]
      cases selected : synth.selectProgram changed id bankNumber program with
      | error error => rfl
      | ok result =>
          obtain ⟨_, _, _, _, after⟩ := Synth.selectProgram_eq_ok selected
          exact congrArg (·.pool) after
  | changeProgram changed program =>
      apply nothing
      intro synth
      rw [apply]
      rcases synth.changeProgram_eq changed program with
        ⟨_, after⟩ | ⟨_, _, ⟨_, _, _, after⟩ | ⟨_, after⟩⟩
      all_goals exact congrArg (·.pool) after
  | releaseKey changed key =>
      cases own
      exact ⟨_, VoicePool.worksOn_releaseKey channel key, fun _ => rfl⟩
  | releaseChannel channel? =>
      cases own
      exact ⟨_, VoicePool.worksOn_releaseChannel channel, fun _ => rfl⟩
  | forceReleaseChannel channel? =>
      cases own
      exact ⟨_, VoicePool.worksOn_forceReleaseChannel channel forcedRelease,
        fun _ => rfl⟩
  | applyController changed controller value =>
      cases own
      by_cases soundOff : controller = Controller.allSoundOff
      · subst controller
        exact ⟨_, VoicePool.worksOn_forceReleaseChannel channel forcedRelease,
          fun _ => rfl⟩
      · by_cases notesOff : controller = Controller.allNotesOff
        · subst controller
          exact ⟨_, VoicePool.worksOn_releaseChannel channel, fun _ => rfl⟩
        · apply nothing
          intro synth
          rcases synth.applyController_eq channel controller value with
            ⟨same, -⟩ | ⟨same, -⟩ | ⟨-, -, change, -, after⟩
          · exact absurd same soundOff
          · exact absurd same notesOff
          · exact congrArg (·.pool) after
  | bendPitch changed value =>
      exact nothing fun _ => rfl

/-- A mutation of one channel leaves the table and the next note alone. -/
theorem apply_of_ownChannel?
    (own : mutation.ownChannel? = some channel)
    (synth : Synth) :
    (mutation.apply synth).banks = synth.banks ∧
      (mutation.apply synth).nextSerial = synth.nextSerial := by
  have effect := mutation.effect synth
  generalize mutation.apply synth = after at effect ⊢
  cases effect with
  | published updatePresets inserted => cases own
  | withdrawn updatePresets removed => cases own
  | noteStarted key velocity sounding => cases own
  | _ => exact ⟨rfl, rfl⟩

end Mutation

namespace Synth

/-- Synthesizers are the same if all their parts are, channel for channel. -/
theorem eq_of_parts
    {first second : Synth}
    (configuration : first.configuration = second.configuration)
    (channels :
      ∀ number : Nat, first.channels[number]? = second.channels[number]?)
    (pool : first.pool = second.pool)
    (banks : first.banks = second.banks)
    (nextSerial : first.nextSerial = second.nextSerial) :
    first = second := by
  have sameChannels : first.channels = second.channels :=
    List.ext_getElem? channels
  cases first
  cases second
  simp_all

end Synth

/-! ## Calls in either order -/

namespace Mutation

variable [Transcendental] {first second : Nat} {mutation other : Mutation}

/-- Mutations of two channels can be made in either order. -/
theorem apply_comm
    (own : mutation.ownChannel? = some first)
    (otherOwn : other.ownChannel? = some second)
    (different : first ≠ second)
    (synth : Synth) :
    other.apply (mutation.apply synth) = mutation.apply (other.apply synth) := by
  obtain ⟨banks, nextSerial⟩ := apply_of_ownChannel? own synth
  obtain ⟨otherBanks, otherNext⟩ := apply_of_ownChannel? otherOwn synth
  obtain ⟨lastBanks, lastNext⟩ :=
    apply_of_ownChannel? otherOwn (mutation.apply synth)
  obtain ⟨otherLastBanks, otherLastNext⟩ :=
    apply_of_ownChannel? own (other.apply synth)
  apply Synth.eq_of_parts
  · simp only [apply_frame]
  · intro number
    simp only [channels_apply, banks, otherBanks, Option.map_map]
    by_cases onFirst : number = first
    · have notOnSecond : number ≠ second := by
        rw [onFirst]
        exact different
      rw [channelAfter_of_ne otherOwn notOnSecond]
      rfl
    · rw [channelAfter_of_ne own onFirst]
      rfl
  · obtain ⟨work, ⟨change, stays, works⟩, worked⟩ := exists_work own
    obtain ⟨otherWork, ⟨otherChange, otherStays, otherWorks⟩, otherWorked⟩ :=
      exists_work otherOwn
    simp only [worked, otherWorked, works, otherWorks, List.map_map]
    congr 1
    apply List.map_congr_left
    intro voice _
    exact stays.comm otherStays different voice
  · rw [lastBanks, banks, otherLastBanks, otherBanks]
  · rw [lastNext, nextSerial, otherLastNext, otherNext]

/-- It makes no difference to a channel when the queue is emptied. -/
theorem apply_reclaimed
    (own : mutation.ownChannel? = some first)
    (synth : Synth) :
    mutation.apply synth.reclaimed = (mutation.apply synth).reclaimed := by
  obtain ⟨banks, nextSerial⟩ := apply_of_ownChannel? own synth
  obtain ⟨lastBanks, lastNext⟩ := apply_of_ownChannel? own synth.reclaimed
  apply Synth.eq_of_parts
  · rw [(mutation.apply_frame synth.reclaimed).1]
    exact (mutation.apply_frame synth).1.symm
  · intro number
    rw [channels_apply]
    exact (channels_apply mutation synth number).symm
  · obtain ⟨work, ⟨change, -, works⟩, worked⟩ := exists_work own
    simp only [Synth.reclaimed_eq, worked, works]
  · rw [lastBanks]
    exact banks.symm
  · rw [lastNext]
    exact nextSerial.symm

end Mutation

namespace Synth

/-- The result of a call on a channel depends on the call behind the check. -/
theorem onChannel_result_congr
    {first second : Synth}
    {call : Synth → Outcome Value}
    (channel : Nat)
    (same : second.configuration = first.configuration)
    (sameCall : (call second).result = (call first).result) :
    (second.onChannel channel call).result =
      (first.onChannel channel call).result := by
  unfold onChannel channelError?
  rw [same]
  split
  · rfl
  · exact sameCall

theorem selectProgram_result_congr
    {first second : Synth}
    (channel : Nat)
    (id : BankId)
    (bankNumber program : Nat)
    (same : second.banks = first.banks) :
    (second.selectProgram channel id bankNumber program).map Prod.fst =
      (first.selectProgram channel id bankNumber program).map Prod.fst := by
  unfold selectProgram
  rw [same]
  split
  · rfl
  · split <;> rfl

theorem noteOff_result_congr
    {first second : Synth}
    (channel key : Nat)
    (same : second.configuration = first.configuration) :
    (second.noteOff channel key).result =
      (first.noteOff channel key).result := by
  apply onChannel_result_congr channel same
  unfold onKey
  split <;> rfl

/-- What a call on one channel answers, the banks and the configuration decide. -/
theorem perform_result_congr
    [Transcendental]
    {loader : BankLoader}
    {command : Command}
    {channel : Nat}
    {first second : Synth}
    (own : command.ownChannel? = some channel)
    (same : second.configuration = first.configuration)
    (sameBanks : second.banks = first.banks) :
    (second.perform loader command).result =
      (first.perform loader command).result := by
  have done
      {outcome other : Outcome Unit}
      (sameResult : outcome.result = other.result) :
      outcome.replyingDone.result = other.replyingDone.result :=
    congrArg (·.map fun _ => Reply.done) sameResult
  cases command with
  | addBank bank updatePresets => cases own
  | load path updatePresets => cases own
  | unload id updatePresets => cases own
  | noteOn channel key velocity => cases own
  | programSelect channel id bankNumber program =>
      apply done
      apply onChannel_result_congr channel same
      simp only [concludeWith_result]
      exact selectProgram_result_congr channel id bankNumber program sameBanks
  | programChange channel program =>
      exact done (onChannel_result_congr channel same rfl)
  | noteOff channel key =>
      exact done (noteOff_result_congr channel key same)
  | allNotesOff channel? =>
      cases own
      exact done (onChannel_result_congr channel same rfl)
  | allSoundsOff channel? =>
      cases own
      exact done (onChannel_result_congr channel same rfl)
  | controlChange channel controller value =>
      exact done (onChannel_result_congr channel same rfl)
  | pitchBend channel value =>
      exact done (onChannel_result_congr channel same rfl)
  | midi event =>
      cases event with
      | noteOn channel key velocity => cases own
      | noteOff channel key velocity =>
          exact done (noteOff_result_congr channel key same)
      | controlChange channel controller value =>
          exact done (onChannel_result_congr channel same rfl)
      | pitchBend channel value =>
          exact done (onChannel_result_congr channel same rfl)
      | programChange channel program =>
          exact done (onChannel_result_congr channel same rfl)

variable [Transcendental]

/-- What a call on one channel leaves as it is. -/
structure UntouchedBeside
    (channel : Nat)
    (before after : Synth) : Prop where
  configuration : after.configuration = before.configuration
  banks : after.banks = before.banks
  nextSerial : after.nextSerial = before.nextSerial
  channels :
    ∀ number ≠ channel, after.channels[number]? = before.channels[number]?
  channelCount : after.channels.length = before.channels.length
  voices :
    ∀ (slot : Nat) (voice : Voice),
      before.pool.voices[slot]? = some voice →
      voice.isFree ∨ voice.channel ≠ channel →
      after.pool.voices[slot]? = some voice
  voiceCount : after.pool.voices.length = before.pool.voices.length

/-- A mutation of one channel leaves all that is not of that channel alone. -/
theorem UntouchedBeside.mutation
    {mutation : Mutation}
    {channel : Nat}
    (own : mutation.ownChannel? = some channel)
    (synth : Synth) :
    synth.UntouchedBeside channel (mutation.apply synth).reclaimed := by
  obtain ⟨banks, nextSerial⟩ := Mutation.apply_of_ownChannel? own synth
  obtain ⟨configuration, channelCount⟩ := mutation.apply_frame synth
  obtain ⟨work, ⟨change, stays, works⟩, worked⟩ := Mutation.exists_work own
  have voices :
      (mutation.apply synth).reclaimed.pool.voices =
        synth.pool.voices.map change := by
    change (mutation.apply synth).pool.voices = _
    rw [worked, works]
  refine {
    configuration := configuration
    banks := banks
    nextSerial := nextSerial
    channels := ?_
    channelCount := channelCount
    voices := ?_
    voiceCount := by rw [voices, List.length_map]
  }
  · intro number other
    change (mutation.apply synth).channels[number]? = _
    rw [Mutation.channels_apply, Mutation.channelAfter_of_ne own other]
    exact Option.map_id'
  · intro slot voice present outside
    rw [voices, List.getElem?_map, present, Option.map_some,
      stays.elsewhere voice outside]

theorem UntouchedBeside.perform
    {command : Command}
    {channel : Nat}
    (own : command.ownChannel? = some channel)
    (loader : BankLoader)
    (synth : Synth) :
    synth.UntouchedBeside channel (synth.perform loader command).synth := by
  rw [perform_synth]
  cases carriedOut : command.mutation? loader synth with
  | none =>
      rw [concluded_none]
      exact ⟨rfl, rfl, rfl, fun _ _ => rfl, rfl, fun _ _ present _ => present,
        rfl⟩
  | some mutation =>
      exact .mutation (Command.ownChannel?_of_mutation? own carriedOut) synth

/-- Calls on two channels lead to the same synthesizer in either order. -/
theorem perform_comm
    {command other : Command}
    {first second : Nat}
    (own : command.ownChannel? = some first)
    (otherOwn : other.ownChannel? = some second)
    (different : first ≠ second)
    (loader otherLoader : BankLoader)
    (synth : Synth) :
    ((synth.perform loader command).synth.perform otherLoader other).synth =
      ((synth.perform otherLoader other).synth.perform loader
        command).synth := by
  have untouched := UntouchedBeside.perform own loader synth
  have otherUntouched := UntouchedBeside.perform otherOwn otherLoader synth
  simp only [perform_synth] at untouched otherUntouched ⊢
  rw [other.mutation?_congr untouched.configuration,
    command.mutation?_congr otherUntouched.configuration]
  cases carriedOut : command.mutation? loader synth with
  | none => rfl
  | some mutation =>
      cases otherCarriedOut : other.mutation? otherLoader synth with
      | none => rfl
      | some otherMutation =>
          have isOwn := Command.ownChannel?_of_mutation? own carriedOut
          have isOther :=
            Command.ownChannel?_of_mutation? otherOwn otherCarriedOut
          simp only [concluded_some]
          rw [Mutation.apply_reclaimed isOther,
            Mutation.apply_reclaimed isOwn,
            Mutation.apply_comm isOwn isOther different]

/--
A call on one channel leaves the other channels, the voices that are free or on
other channels, and the table as they were.  Of two calls on different channels
each answers the same, and both lead to the same synthesizer, whichever comes
first.
-/
theorem channel_calls_are_independent (synth : Synth) :
    (∀ (loader : BankLoader) (command : Command) (channel : Nat),
      command.ownChannel? = some channel →
      synth.UntouchedBeside channel (synth.perform loader command).synth) ∧
      ∀ (loader otherLoader : BankLoader) (command other : Command)
        (first second : Nat),
        command.ownChannel? = some first →
        other.ownChannel? = some second →
        first ≠ second →
        let early := synth.perform loader command
        let otherLate := early.synth.perform otherLoader other
        let otherEarly := synth.perform otherLoader other
        let late := otherEarly.synth.perform loader command
        early.result = late.result ∧
          otherLate.result = otherEarly.result ∧
          otherLate.synth = late.synth := by
  refine ⟨fun loader command channel own => .perform own loader synth, ?_⟩
  intro loader otherLoader command other first second own otherOwn different
    early otherLate otherEarly late
  have untouched : synth.UntouchedBeside first early.synth :=
    .perform own loader synth
  have otherUntouched : synth.UntouchedBeside second otherEarly.synth :=
    .perform otherOwn otherLoader synth
  refine ⟨?_, ?_, ?_⟩
  · exact (perform_result_congr own otherUntouched.configuration
      otherUntouched.banks).symm
  · exact perform_result_congr otherOwn untouched.configuration untouched.banks
  · exact perform_comm own otherOwn different loader otherLoader synth

end Synth

namespace Synth

open SharedEngine (clickBank soloConfiguration)

/-- Two channels and two voices. -/
def duetConfiguration : SynthConfiguration :=
  { soloConfiguration with channels := 2, polyphony := 2 }

/-- A bank is loaded, and both channels play it. -/
def duet : List Action :=
  [.control (fun _ => .loaded clickBank) (.addBank clickBank true),
    .control (fun _ => .loaded clickBank) (.noteOn 0 60 100),
    .control (fun _ => .loaded clickBank) (.noteOn 1 64 100)]

theorem duet_calls_are_independent :
    let synth := (Synth.new duetConfiguration).run duet
    let cut := Command.midi (.controlChange 0 Controller.allSoundOff 0)
    let select := Command.programSelect 1 ⟨1⟩ 0 0
    let loader := fun _ => .loaded clickBank
    cut.ownChannel? = some 0 ∧
      select.ownChannel? = some 1 ∧
      synth.pool.states = [.attacking, .attacking] ∧
      (synth.perform loader cut).synth.pool.states =
        [.releasing, .attacking] ∧
      ((synth.perform loader cut).synth.perform loader select).synth =
        ((synth.perform loader select).synth.perform loader cut).synth := by
  obtain ⟨-, eitherOrder⟩ :=
    channel_calls_are_independent ((Synth.new duetConfiguration).run duet)
  obtain ⟨-, -, sameSynth⟩ :=
    eitherOrder (fun _ => .loaded clickBank) (fun _ => .loaded clickBank)
      (.midi (.controlChange 0 Controller.allSoundOff 0))
      (.programSelect 1 ⟨1⟩ 0 0) 0 1 rfl rfl (by decide)
  exact ⟨rfl, rfl, by decide +kernel, by decide +kernel, sameSynth⟩

end Synth

end Polyphony.Engine
