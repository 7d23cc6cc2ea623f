import Polyphony.Proofs.Interleaving
import Polyphony.Proofs.Matching

namespace Polyphony.Engine

/-!
# What a mutation changes

Each mutation is described here once, by the parts of the synthesizer that it
replaces.  Proofs about mutations start from these descriptions and leave the
definitions of the calls closed.
-/

open Instrument (Bank BankId Match Zone)
open Number (Transcendental)

namespace Channel

/-- The channel after a newly loaded bank was offered to it. -/
def offered
    (entry : BankReference)
    (channel : Channel) :
    Channel :=
  match channel.takeover? entry with
  | some found => channel.offer found
  | none => channel

end Channel

namespace Synth

/-- The channel after the bank of a handle has gone. -/
def rebound
    (id : BankId)
    (updatePresets : Bool)
    (synth : Synth)
    (channel : Channel) :
    Channel :=
  if channel.playsFrom id then
    channel.resolveTo (synth.fallback? updatePresets channel)
  else
    channel

theorem getElem?_changeChannel
    (changed number : Nat)
    (change : Channel → Channel)
    (synth : Synth) :
    (synth.changeChannel changed change).channels[number]? =
      synth.channels[number]?.map
        (if changed = number then change else id) := by
  simp only [changeChannel, List.getElem?_modify, Option.map_eq_map]
  split <;> rfl

/-- What the change of one channel keeps, all channels keep. -/
theorem forall_changeChannel
    (holds : Channel → Prop)
    {number : Nat}
    {change : Channel → Channel}
    {synth : Synth}
    (keeps :
      ∀ channel : Channel,
        synth.channels[number]? = some channel →
        holds channel →
        holds (change channel))
    (before : ∀ channel ∈ synth.channels, holds channel) :
    ∀ channel ∈ (synth.changeChannel number change).channels,
      holds channel := by
  intro channel member
  obtain ⟨place, present⟩ := List.mem_iff_getElem?.mp member
  rw [getElem?_changeChannel, Option.map_eq_some_iff] at present
  obtain ⟨old, oldPresent, rfl⟩ := present
  have oldHolds := before old (List.mem_of_getElem? oldPresent)
  split
  · rename_i isPlace
    subst place
    exact keeps old oldPresent oldHolds
  · exact oldHolds

/-- A program that is selected is a preset of a loaded bank. -/
theorem selectProgram_eq_ok
    {channel bankNumber program : Nat}
    {id : BankId}
    {synth after : Synth}
    {answer : Unit}
    (selected :
      synth.selectProgram channel id bankNumber program =
        .ok (answer, after)) :
    ∃ entry preset,
      synth.banks.get? id = some entry ∧
        entry.bank.presetIndex? bankNumber program = some preset ∧
        after =
          synth.changeChannel channel
            (Channel.select id preset bankNumber program) := by
  unfold selectProgram at selected
  split at selected
  · cases selected
  · rename_i entry found
    split at selected
    · cases selected
    · rename_i preset addressed
      cases selected
      exact ⟨entry, preset, found, addressed, rfl⟩

/--
A channel whose program changes is bound within its selected bank, or to the
best match among the banks.
-/
theorem changeProgram_eq
    (channel program : Nat)
    (synth : Synth) :
    (synth.channels[channel]? = none ∧
        (synth.changeProgram channel program).2 = synth) ∨
      ∃ entry,
        synth.channels[channel]? = some entry ∧
          ((∃ id preset,
              synth.selectedPreset? program entry = some (id, preset) ∧
                (synth.changeProgram channel program).2 =
                  synth.changeChannel channel
                    (Channel.select id preset entry.bankNumber program)) ∨
            (synth.selectedPreset? program entry = none ∧
              (synth.changeProgram channel program).2 =
                synth.changeChannel channel fun changed =>
                  (changed.setProgram program).resolveTo
                    (synth.banks.bestMatch? entry.bankNumber program))) := by
  unfold changeProgram
  split
  · rename_i missing
    exact .inl ⟨missing, rfl⟩
  · rename_i entry present
    refine .inr ⟨entry, present, ?_⟩
    split
    · rename_i id preset selected
      exact .inl ⟨id, preset, selected, rfl⟩
    · rename_i unselected
      exact .inr ⟨unselected, rfl⟩

/-- The preset that a program has in the selected bank is that of its address. -/
theorem selectedPreset?_eq_some
    {program preset : Nat}
    {id : BankId}
    {synth : Synth}
    {channel : Channel}
    (selected : synth.selectedPreset? program channel = some (id, preset)) :
    ∃ entry,
      synth.banks.get? id = some entry ∧
        entry.bank.presetIndex? channel.bankNumber program = some preset := by
  unfold selectedPreset? at selected
  split at selected
  · simp only [Option.bind_eq_bind, Option.bind_eq_some_iff,
      Option.pure_def, Option.some.injEq, Prod.mk.injEq] at selected
    obtain ⟨source, found, index, addressed, sameId, sameIndex⟩ := selected
    subst id
    subst preset
    exact ⟨source, found, addressed⟩
  · cases selected

/-- The loaded bank and the preset that a note on a channel sounds, if any. -/
def notePreset?
    (channel : Nat)
    (synth : Synth) :
    Option (BankReference × Instrument.Preset) :=
  synth.channels[channel]?.bind fun entry => synth.boundPreset? entry.binding

/-- A note starts the layers of the preset of its channel, if that has one. -/
theorem startNote_eq
    [Transcendental]
    (channel key velocity : Nat)
    (synth : Synth) :
    synth.startNote channel key velocity =
      match synth.notePreset? channel with
      | none => (.silent, synth)
      | some (source, preset) =>
          let started :=
            synth.pool.startLayers
              ⟨channel, key, velocity, synth.nextSerial⟩ source
              (preset.layers key velocity)
          (started.1,
            { synth with
              pool := started.2
              nextSerial := synth.nextSerial + 1 }) := by
  rfl

/-- The preset that a note sounds belongs to a bank of the table. -/
theorem notePreset?_eq_some
    {channel : Nat}
    {synth : Synth}
    {source : BankReference}
    {preset : Instrument.Preset}
    (sounding : synth.notePreset? channel = some (source, preset)) :
    ∃ entry id position,
      synth.channels[channel]? = some entry ∧
        entry.binding.target? = some (id, position) ∧
        synth.banks.get? id = some source ∧
        source.bank.presets[position]? = some preset := by
  simp only [notePreset?, Option.bind_eq_some_iff] at sounding
  obtain ⟨entry, present, bound⟩ := sounding
  simp only [boundPreset?, Option.bind_eq_bind, Option.bind_eq_some_iff,
    Option.pure_def, Option.some.injEq, Prod.mk.injEq] at bound
  obtain ⟨⟨id, position⟩, target, loaded, found, other, listed, same⟩ := bound
  obtain ⟨rfl, rfl⟩ := same
  exact ⟨entry, id, position, present, target, found, listed⟩

/-- A controller message acts on the voices of a channel or on the channel. -/
theorem applyController_eq
    (channel controller value : Nat)
    (synth : Synth) :
    (controller = Controller.allSoundOff ∧
        synth.applyController channel controller value =
          synth.changePool
            (·.forceReleaseChannel (some channel) forcedRelease)) ∨
      (controller = Controller.allNotesOff ∧
        synth.applyController channel controller value =
          synth.changePool (·.releaseChannel (some channel))) ∨
      (controller ≠ Controller.allSoundOff ∧
        controller ≠ Controller.allNotesOff ∧
        ∃ change : Channel → Channel,
          (∀ entry : Channel, (change entry).binding = entry.binding) ∧
            synth.applyController channel controller value =
              synth.changeChannel channel change) := by
  unfold applyController
  split
  · rename_i allSoundOff
    exact .inl ⟨allSoundOff, rfl⟩
  · rename_i notAllSoundOff
    split
    · rename_i allNotesOff
      exact .inr (.inl ⟨allNotesOff, rfl⟩)
    · rename_i notAllNotesOff
      refine .inr (.inr ⟨notAllSoundOff, notAllNotesOff, ?_⟩)
      split
      · exact ⟨Channel.resetControllers, fun _ => rfl, rfl⟩
      · refine ⟨Channel.setController controller value, ?_, rfl⟩
        intro entry
        unfold Channel.setController
        split <;> rfl

end Synth

/-! ## What a mutation does -/

/-- Why a voice comes into another state. -/
inductive Cause where
  | none
  | noteOn
  | release
  | sound
  deriving DecidableEq

namespace Cause

/--
The changes of state that a cause can bring about.  A key that is pressed makes
a free voice attack, and also one that it steals; a release makes held voices
fade; and with the passing of sound a voice sustains in the end, or is free.
-/
def moves : Cause → VoiceState → VoiceState → Bool
  | .none, _, _ => false
  | .noteOn, _, after => after = .attacking
  | .release, .attacking, after => after = .releasing
  | .release, .sustaining, after => after = .releasing
  | .release, _, _ => false
  | .sound, .attacking, after => after = .sustaining || after = .free
  | .sound, _, after => after = .free

end Cause

/-- What a mutation can do to voices. -/
def Mutation.cause : Mutation → Cause
  | .startNote _ _ _ => .noteOn
  | .withdraw _ _
  | .releaseKey _ _
  | .releaseChannel _
  | .forceReleaseChannel _ => .release
  | .applyController _ controller _ =>
      if controller = Controller.allSoundOff ∨
          controller = Controller.allNotesOff then
        .release
      else
        .none
  | .publish _ _
  | .selectProgram _ _ _ _
  | .changeProgram _ _
  | .bendPitch _ _ => .none

/-- Whether a mutation has nothing to do with the table. -/
def Mutation.leavesTable : Mutation → Bool
  | .publish _ _
  | .withdraw _ _ => false
  | _ => true

/--
All that a mutation can do: the table gains or loses a bank, or refuses to; a
channel is bound anew or set up otherwise; a note starts, or has nothing to
start; or voices are released or cut.
-/
inductive Effect
    [Transcendental]
    (synth : Synth) :
    Mutation → Synth → Prop where
  | published {bank : Bank} {id : BankId} {banks : BankTable} :
      (updatePresets : Bool) →
      synth.banks.insert bank = .ok (id, banks) →
      Effect synth (.publish bank updatePresets)
        { synth with
          banks := banks
          channels :=
            if updatePresets then
              synth.channels.map (Channel.offered ⟨id, bank⟩)
            else
              synth.channels }
  | refused {bank : Bank} {error : SynthError} :
      (updatePresets : Bool) →
      synth.banks.insert bank = .error error →
      Effect synth (.publish bank updatePresets) synth
  | withdrawn
      {id : BankId}
      {entry : BankReference}
      {banks : BankTable} :
      (updatePresets : Bool) →
      synth.banks.remove? id = some (entry, banks) →
      Effect synth (.withdraw id updatePresets)
        { synth with
          banks := banks
          pool := synth.pool.forceReleaseBank id forcedRelease
          channels :=
            synth.channels.map
              (Synth.rebound id updatePresets { synth with banks := banks }) }
  | unknown {id : BankId} :
      (updatePresets : Bool) →
      synth.banks.remove? id = none →
      Effect synth (.withdraw id updatePresets) synth
  | selected
      {mutation : Mutation}
      {channel preset bankNumber program : Nat}
      {id : BankId}
      {entry : BankReference} :
      mutation.leavesTable →
      mutation.cause ≠ .noteOn →
      synth.banks.get? id = some entry →
      preset < entry.bank.presets.length →
      Effect synth mutation
        (synth.changeChannel channel
          (Channel.select id preset bankNumber program))
  | searched
      {mutation : Mutation}
      {channel : Nat}
      (bankNumber program : Nat) :
      mutation.leavesTable →
      mutation.cause ≠ .noteOn →
      Effect synth mutation
        (synth.changeChannel channel fun changed =>
          (changed.setProgram program).resolveTo
            (synth.banks.bestMatch? bankNumber program))
  | adjusted
      {mutation : Mutation}
      {channel : Nat}
      {change : Channel → Channel} :
      mutation.leavesTable →
      mutation.cause ≠ .noteOn →
      (∀ entry : Channel, (change entry).binding = entry.binding) →
      Effect synth mutation (synth.changeChannel channel change)
  | noteStarted
      {channel : Nat}
      {source : BankReference}
      {preset : Instrument.Preset}
      (key velocity : Nat) :
      synth.notePreset? channel = some (source, preset) →
      Effect synth (.startNote channel key velocity)
        { synth with
          pool :=
            (synth.pool.startLayers
              ⟨channel, key, velocity, synth.nextSerial⟩ source
              (preset.layers key velocity)).2
          nextSerial := synth.nextSerial + 1 }
  | silent {channel : Nat} (key velocity : Nat) :
      synth.notePreset? channel = none →
      Effect synth (.startNote channel key velocity) synth
  | released {mutation : Mutation} (condition : Voice → Bool) :
      mutation.leavesTable →
      mutation.cause = .release →
      Effect synth mutation
        (synth.changePool (·.changeWhere condition Voice.release))
  | cut
      {mutation : Mutation}
      (condition : Voice → Bool)
      (seconds : Float32) :
      mutation.leavesTable →
      mutation.cause = .release →
      Effect synth mutation
        (synth.changePool
          (·.changeWhere condition (Voice.forceRelease seconds)))

namespace Mutation

variable [Transcendental]

/-- A mutation that finds nothing to change sets a channel up as it was. -/
theorem effect_of_unchanged
    {mutation : Mutation}
    {synth : Synth}
    (leavesTable : mutation.leavesTable)
    (notNote : mutation.cause ≠ .noteOn) :
    Effect synth mutation synth := by
  have unchanged : synth.changeChannel 0 id = synth := by
    simp [Synth.changeChannel]
  have adjusted : Effect synth mutation (synth.changeChannel 0 id) :=
    .adjusted leavesTable notNote fun _ => rfl
  rwa [unchanged] at adjusted

/-- Every mutation does one of these things. -/
theorem effect
    (mutation : Mutation)
    (synth : Synth) :
    Effect synth mutation (mutation.apply synth) := by
  cases mutation with
  | publish bank updatePresets =>
      simp only [apply, Synth.publish]
      cases inserted : synth.banks.insert bank with
      | error error =>
          exact .refused updatePresets inserted
      | ok result =>
          cases updatePresets with
          | false => exact .published false inserted
          | true => exact .published true inserted
  | withdraw id updatePresets =>
      simp only [apply, Synth.withdraw]
      cases removed : synth.banks.remove? id with
      | none =>
          exact .unknown updatePresets removed
      | some result =>
          exact .withdrawn updatePresets removed
  | selectProgram channel id bankNumber program =>
      rw [apply]
      cases selected : synth.selectProgram channel id bankNumber program with
      | error error =>
          exact effect_of_unchanged rfl (by simp [cause])
      | ok result =>
          obtain ⟨entry, preset, found, addressed, after⟩ :=
            Synth.selectProgram_eq_ok selected
          rw [Synth.afterChange, after]
          exact .selected rfl (by simp [cause]) found
            (Bank.lt_of_presetIndex? addressed)
  | changeProgram channel program =>
      rw [apply]
      rcases synth.changeProgram_eq channel program with
        ⟨-, after⟩ |
          ⟨entry, -, ⟨id, preset, selected, after⟩ | ⟨-, after⟩⟩
      · rw [after]
        exact effect_of_unchanged rfl (by simp [cause])
      · obtain ⟨source, found, addressed⟩ :=
          Synth.selectedPreset?_eq_some selected
        rw [after]
        exact .selected rfl (by simp [cause]) found
          (Bank.lt_of_presetIndex? addressed)
      · rw [after]
        exact .searched entry.bankNumber program rfl (by simp [cause])
  | startNote channel key velocity =>
      rw [apply, Synth.startNote_eq]
      cases sounding : synth.notePreset? channel with
      | none =>
          exact .silent key velocity sounding
      | some bound =>
          exact .noteStarted key velocity sounding
  | releaseKey channel key =>
      exact .released _ rfl rfl
  | releaseChannel channel? =>
      exact .released _ rfl rfl
  | forceReleaseChannel channel? =>
      exact .cut _ _ rfl rfl
  | applyController channel controller value =>
      rw [apply]
      rcases synth.applyController_eq channel controller value with
        ⟨same, after⟩ | ⟨same, after⟩ |
          ⟨notSoundOff, notNotesOff, change, sameBinding, after⟩
      · rw [after]
        exact .cut _ _ rfl (by simp [cause, same])
      · rw [after]
        exact .released _ rfl (by simp [cause, same])
      · rw [after]
        exact .adjusted rfl (by simp [cause, notSoundOff, notNotesOff])
          sameBinding
  | bendPitch channel value =>
      exact .adjusted rfl (by simp [cause]) fun _ => rfl

/-- No mutation changes the configuration or the number of channels. -/
theorem apply_frame
    (mutation : Mutation)
    (synth : Synth) :
    (mutation.apply synth).configuration = synth.configuration ∧
      (mutation.apply synth).channels.length = synth.channels.length := by
  have effect := mutation.effect synth
  generalize mutation.apply synth = after at effect ⊢
  cases effect with
  | published updatePresets inserted =>
      cases updatePresets <;> simp
  | withdrawn updatePresets removed => simp
  | refused updatePresets inserted => exact ⟨rfl, rfl⟩
  | unknown updatePresets removed => exact ⟨rfl, rfl⟩
  | selected leavesTable notNote found inside => simp [Synth.changeChannel]
  | searched bankNumber program => simp [Synth.changeChannel]
  | adjusted leavesTable notNote sameBinding => simp [Synth.changeChannel]
  | noteStarted key velocity sounding => exact ⟨rfl, rfl⟩
  | silent key velocity sounding => exact ⟨rfl, rfl⟩
  | released condition => exact ⟨rfl, rfl⟩
  | cut condition seconds => exact ⟨rfl, rfl⟩

end Mutation

namespace Synth

/-- The synthesizer has the given configuration, and its number of channels. -/
structure Configured
    (configuration : SynthConfiguration)
    (synth : Synth) : Prop where
  sameConfiguration : synth.configuration = configuration
  channelCount : synth.channels.length = configuration.channels

namespace Configured

theorem new (configuration : SynthConfiguration) :
    (Synth.new configuration).Configured configuration where
  sameConfiguration := rfl
  channelCount := by simp [Synth.new]

/-- A synthesizer keeps its configuration. -/
theorem invariant
    [Transcendental]
    (configuration : SynthConfiguration) :
    Invariant (Synth.Configured configuration) where
  mutation := by
    intro mutation synth configured
    obtain ⟨sameConfiguration, sameLength⟩ := mutation.apply_frame synth
    exact {
      sameConfiguration :=
        sameConfiguration.trans configured.sameConfiguration
      channelCount := sameLength.trans configured.channelCount
    }
  drops := by
    intro parked synth _ configured
    exact ⟨configured.sameConfiguration, configured.channelCount⟩
  block := by
    intro frames synth configured
    exact ⟨configured.sameConfiguration, configured.channelCount⟩

end Configured

end Synth

/-! ## The voices and the queue -/

/--
The changes that mutations make to a pool: none, the start of a note's layers
from one of the given banks, or the release or the cut of some voices.
-/
inductive PoolChange
    [Transcendental]
    (banks : List BankReference)
    (pool : VoicePool) :
    Cause → VoicePool → Prop where
  | unchanged {cause : Cause} :
      PoolChange banks pool cause pool
  | layers
      (note : Note)
      {source : BankReference}
      (zones : List Zone) :
      source ∈ banks →
      PoolChange banks pool .noteOn (pool.startLayers note source zones).2
  | released
      (condition : Voice → Bool) :
      PoolChange banks pool .release
        (pool.changeWhere condition Voice.release)
  | cut
      (condition : Voice → Bool)
      (seconds : Float32) :
      PoolChange banks pool .release
        (pool.changeWhere condition (Voice.forceRelease seconds))

namespace Mutation

variable [Transcendental]

/-- Every mutation changes the pool in one of these ways. -/
theorem poolChange
    (mutation : Mutation)
    (synth : Synth) :
    PoolChange synth.banks.entries synth.pool mutation.cause
      (mutation.apply synth).pool := by
  have effect := mutation.effect synth
  generalize mutation.apply synth = after at effect ⊢
  cases effect with
  | published updatePresets inserted => exact .unchanged
  | refused updatePresets inserted => exact .unchanged
  | withdrawn updatePresets removed => exact .cut _ _
  | unknown updatePresets removed => exact .unchanged
  | selected leavesTable notNote found inside => exact .unchanged
  | searched bankNumber program => exact .unchanged
  | adjusted leavesTable notNote sameBinding => exact .unchanged
  | noteStarted key velocity sounding =>
      obtain ⟨entry, id, position, -, -, found, -⟩ :=
        Synth.notePreset?_eq_some sounding
      exact .layers _ _ (BankTable.mem_of_get? found).1
  | silent key velocity sounding => exact .unchanged
  | released condition leavesTable isRelease =>
      rw [isRelease]
      exact .released condition
  | cut condition seconds leavesTable isRelease =>
      rw [isRelease]
      exact .cut condition seconds

end Mutation

end Polyphony.Engine
