import Polyphony.Proofs.Blocks
import Polyphony.Proofs.Mutation

namespace Polyphony.Engine

/-!
# The course of a channel

What a mutation makes of the table depends on the table alone, and what it makes
of a channel on the table and on that channel.  The voices, the queue and the
other channels have no part in it, and neither has the sound that is rendered.
-/

open Instrument (BankId)
open Number (Transcendental)
open SoundFont (BankLoader)

namespace Channel

/-- The channel after a preset of a bank was asked for, if the bank has it. -/
def asked
    (id : BankId)
    (bankNumber program : Nat)
    (banks : BankTable)
    (channel : Channel) :
    Channel :=
  match (banks.get? id).bind (·.bank.presetIndex? bankNumber program) with
  | some preset => channel.select id preset bankNumber program
  | none => channel

/-- The preset of the channel's selected bank that has a program, if one has. -/
def selectedIn?
    (program : Nat)
    (banks : BankTable)
    (channel : Channel) :
    Option (BankId × Nat) :=
  match channel.binding with
  | .selected id _ =>
      (banks.get? id).bind fun entry =>
        (entry.bank.presetIndex? channel.bankNumber program).map (id, ·)
  | _ => none

/-- The channel after it was given another program. -/
def reprogrammed
    (program : Nat)
    (banks : BankTable)
    (channel : Channel) :
    Channel :=
  match channel.selectedIn? program banks with
  | some (id, preset) => channel.select id preset channel.bankNumber program
  | none =>
      (channel.setProgram program).resolveTo
        (banks.bestMatch? channel.bankNumber program)

/-- The channel after the bank of a handle has gone, and left a table. -/
def bereft
    (id : BankId)
    (updatePresets : Bool)
    (remaining : BankTable)
    (channel : Channel) :
    Channel :=
  if channel.playsFrom id then
    channel.resolveTo
      (if updatePresets then
        remaining.bestMatch? channel.bankNumber channel.program
      else
        none)
  else
    channel

/-- The channel after a controller was moved.  Two of them act on voices only. -/
def controlled
    (controller value : Nat)
    (channel : Channel) :
    Channel :=
  if controller = Controller.allSoundOff ∨
      controller = Controller.allNotesOff then
    channel
  else if controller = Controller.resetControllers then
    channel.resetControllers
  else
    channel.setController controller value

end Channel

namespace Mutation

/-- The table after a mutation. -/
def tableAfter
    (banks : BankTable) :
    Mutation → BankTable
  | .publish bank _ =>
      match banks.insert bank with
      | .ok (_, extended) => extended
      | .error _ => banks
  | .withdraw id _ =>
      match banks.remove? id with
      | some (_, remaining) => remaining
      | none => banks
  | _ => banks

/-- What a mutation makes of the channel of a number, next to some banks. -/
def channelAfter
    (banks : BankTable)
    (mutation : Mutation)
    (number : Nat) :
    Channel → Channel :=
  match mutation with
  | .publish bank true =>
      match banks.insert bank with
      | .ok (handle, _) => Channel.offered ⟨handle, bank⟩
      | .error _ => id
  | .withdraw handle updatePresets =>
      match banks.remove? handle with
      | some (_, remaining) => Channel.bereft handle updatePresets remaining
      | none => id
  | .selectProgram channel handle bankNumber program =>
      if channel = number then
        Channel.asked handle bankNumber program banks
      else
        id
  | .changeProgram channel program =>
      if channel = number then Channel.reprogrammed program banks else id
  | .applyController channel controller value =>
      if channel = number then Channel.controlled controller value else id
  | .bendPitch channel value =>
      if channel = number then Channel.setPitchBend value else id
  | _ => id

end Mutation

namespace Synth

/-- A preset is looked for in the selected bank as the table has it. -/
theorem selectedPreset?_eq
    (program : Nat)
    (channel : Channel)
    (synth : Synth) :
    synth.selectedPreset? program channel =
      channel.selectedIn? program synth.banks := by
  unfold selectedPreset? Channel.selectedIn?
  cases channel.binding with
  | selected id preset =>
      simp only [Option.bind_eq_bind, Option.pure_def,
        Option.map_eq_bind, Function.comp_def]
  | resolved found => rfl
  | noInstrument => rfl

theorem selectProgram_channels
    (channel : Nat)
    (handle : BankId)
    (bankNumber program : Nat)
    (synth : Synth)
    (number : Nat) :
    (synth.afterChange
        (synth.selectProgram channel handle bankNumber
          program)).channels[number]? =
      synth.channels[number]?.map
        (if channel = number then
          Channel.asked handle bankNumber program synth.banks
        else
          id) := by
  have unasked
      (missing :
        (synth.banks.get? handle).bind
          (·.bank.presetIndex? bankNumber program) = none) :
      Channel.asked handle bankNumber program synth.banks = id := by
    funext entry
    simp [Channel.asked, missing]
  cases selected : synth.selectProgram channel handle bankNumber program with
  | error error =>
      have missing :
          (synth.banks.get? handle).bind
            (·.bank.presetIndex? bankNumber program) = none := by
        cases found : synth.banks.get? handle with
        | none => rfl
        | some source =>
            cases addressed : source.bank.presetIndex? bankNumber program with
            | none => exact addressed
            | some preset => simp [selectProgram, found, addressed] at selected
      simp [afterChange, unasked missing]
  | ok result =>
      obtain ⟨source, preset, found, addressed, after⟩ :=
        selectProgram_eq_ok selected
      have asked :
          Channel.asked handle bankNumber program synth.banks =
            Channel.select handle preset bankNumber program := by
        funext entry
        simp [Channel.asked, found, addressed]
      rw [asked, afterChange, after]
      exact synth.getElem?_changeChannel channel number _

theorem changeProgram_channels
    (channel program : Nat)
    (synth : Synth)
    (number : Nat) :
    (synth.changeProgram channel program).2.channels[number]? =
      synth.channels[number]?.map
        (if channel = number then
          Channel.reprogrammed program synth.banks
        else
          id) := by
  rcases synth.changeProgram_eq channel program with
    ⟨missing, after⟩ |
      ⟨entry, present, ⟨id, preset, selected, after⟩ | ⟨unselected, after⟩⟩
  · rw [after]
    by_cases same : channel = number
    · simp [← same, missing]
    · simp [same]
  · rw [selectedPreset?_eq] at selected
    rw [after, getElem?_changeChannel]
    by_cases same : channel = number
    · simp [← same, present, Channel.reprogrammed, selected]
    · simp [same]
  · rw [selectedPreset?_eq] at unselected
    rw [after, getElem?_changeChannel]
    by_cases same : channel = number
    · simp [← same, present, Channel.reprogrammed, unselected]
    · simp [same]

theorem applyController_channels
    (channel controller value : Nat)
    (synth : Synth)
    (number : Nat) :
    (synth.applyController channel controller value).channels[number]? =
      synth.channels[number]?.map
        (if channel = number then
          Channel.controlled controller value
        else
          id) := by
  have onVoices
      (commanding :
        controller = Controller.allSoundOff ∨
          controller = Controller.allNotesOff) :
      Channel.controlled controller value = id := by
    funext entry
    simp [Channel.controlled, commanding]
  unfold applyController
  split
  · rename_i soundOff
    simp [onVoices (.inl soundOff), changePool]
  · rename_i notSoundOff
    split
    · rename_i notesOff
      simp [onVoices (.inr notesOff), changePool]
    · rename_i notNotesOff
      have onChannel :
          Channel.controlled controller value =
            if controller = Controller.resetControllers then
              Channel.resetControllers
            else
              Channel.setController controller value := by
        funext entry
        simp only [Channel.controlled, notSoundOff, notNotesOff, or_self,
          if_false]
        split <;> rfl
      rw [onChannel]
      split
      · exact synth.getElem?_changeChannel channel number _
      · exact synth.getElem?_changeChannel channel number _

end Synth

namespace Mutation

variable [Transcendental]

/-- What becomes of the table depends on nothing but the table. -/
theorem banks_apply
    (mutation : Mutation)
    (synth : Synth) :
    (mutation.apply synth).banks = mutation.tableAfter synth.banks := by
  have untouched
      {other : Mutation}
      (leavesTable : other.leavesTable) :
      other.tableAfter synth.banks = synth.banks := by
    cases other <;> first | rfl | cases leavesTable
  have effect := mutation.effect synth
  generalize mutation.apply synth = after at effect ⊢
  cases effect with
  | published updatePresets inserted => simp [tableAfter, inserted]
  | refused updatePresets inserted => simp [tableAfter, inserted]
  | withdrawn updatePresets removed => simp [tableAfter, removed]
  | unknown updatePresets removed => simp [tableAfter, removed]
  | selected leavesTable => exact (untouched leavesTable).symm
  | searched bankNumber program leavesTable =>
      exact (untouched leavesTable).symm
  | adjusted leavesTable => exact (untouched leavesTable).symm
  | noteStarted key velocity sounding => rfl
  | silent key velocity sounding => rfl
  | released condition leavesTable => exact (untouched leavesTable).symm
  | cut condition seconds leavesTable => exact (untouched leavesTable).symm

/-- What becomes of a channel depends on nothing but itself and the table. -/
theorem channels_apply
    (mutation : Mutation)
    (synth : Synth)
    (number : Nat) :
    (mutation.apply synth).channels[number]? =
      synth.channels[number]?.map
        (mutation.channelAfter synth.banks number) := by
  cases mutation with
  | publish bank updatePresets =>
      cases inserted : synth.banks.insert bank with
      | error error =>
          cases updatePresets <;>
            simp [apply, Synth.publish, Synth.afterChange, channelAfter,
              inserted]
      | ok result =>
          cases updatePresets with
          | false =>
              simp [apply, Synth.publish, Synth.afterChange, channelAfter,
                inserted]
          | true =>
              simp only [apply, Synth.publish, Synth.afterChange, channelAfter,
                inserted]
              exact List.getElem?_map
  | withdraw handle updatePresets =>
      cases removed : synth.banks.remove? handle with
      | none =>
          simp [apply, Synth.withdraw, Synth.afterChange, channelAfter, removed]
      | some result =>
          simp only [apply, Synth.withdraw, Synth.afterChange, channelAfter,
            removed]
          exact List.getElem?_map
  | selectProgram channel handle bankNumber program =>
      exact synth.selectProgram_channels channel handle bankNumber program number
  | changeProgram channel program =>
      exact synth.changeProgram_channels channel program number
  | startNote channel key velocity =>
      rw [apply, Synth.startNote_eq]
      cases synth.notePreset? channel <;> simp [channelAfter]
  | releaseKey channel key => simp [apply, Synth.changePool, channelAfter]
  | releaseChannel channel? => simp [apply, Synth.changePool, channelAfter]
  | forceReleaseChannel channel? =>
      simp [apply, Synth.changePool, channelAfter]
  | applyController channel controller value =>
      exact synth.applyController_channels channel controller value number
  | bendPitch channel value =>
      exact synth.getElem?_changeChannel channel number
        (Channel.setPitchBend value)

end Mutation

/-- Whether a command is rejected depends on nothing but the configuration. -/
theorem Command.mutation?_congr
    {loader : BankLoader}
    {first second : Synth}
    (command : Command)
    (same : second.configuration = first.configuration) :
    command.mutation? loader second = command.mutation? loader first := by
  simp only [mutation?, Synth.ifChannel, same]

end Polyphony.Engine
