import Polyphony.Proofs.Bindings

namespace Polyphony.Engine

/-!
# Calls that fail

What is wrong with a control call can be read off its arguments, the loaded
banks and the number of channels before it is made.  Several things may be
wrong at once: the call fails with the first of them, and it fails only if there
is one.  A call that fails leaves everything as it was, but that it may have
dropped the parked references.
-/

open Instrument (Bank BankId)
open Number (Transcendental)
open SoundFont (BankLoader)

/-! ## What can be wrong with a call -/

/-- Keys of notes have seven bits. -/
def keyFaults (key : Nat) : List SynthError :=
  if key ≤ 127 then [] else [.invalidKey key]

/-- Velocities of notes have seven bits, and are not zero. -/
def velocityFaults (velocity : Nat) : List SynthError :=
  if 1 ≤ velocity ∧ velocity ≤ 127 then [] else [.invalidVelocity velocity]

/-- What is wrong with the key and the velocity of an event, if it has any. -/
def noteFaults : MidiEvent → List SynthError
  | .noteOn _ key velocity => keyFaults key ++ velocityFaults velocity
  | .noteOff _ key _ => keyFaults key
  | .controlChange _ _ _
  | .pitchBend _ _
  | .programChange _ _ => []

/-- A path may not lead to a bank. -/
def loaderFaults
    (loader : BankLoader)
    (path : String) :
    List SynthError :=
  match (loader path).bank with
  | .ok _ => []
  | .error error => [error]

namespace Synth

/-- A channel has to be one of those that the synthesizer has. -/
def channelFaults
    (channel : Nat)
    (synth : Synth) :
    List SynthError :=
  if channel < synth.channels.length then
    []
  else
    [.invalidChannel channel synth.channels.length]

/-- The handle of a bank has to be that of a loaded one. -/
def bankFaults
    (id : BankId)
    (synth : Synth) :
    List SynthError :=
  if ∃ entry ∈ synth.banks.entries, entry.id = id then
    []
  else
    [.unknownBank id]

/-- A preset has to be in the bank that it is looked for in. -/
def presetFaults
    (id : BankId)
    (bankNumber program : Nat)
    (synth : Synth) :
    List SynthError :=
  if ∃ entry ∈ synth.banks.entries,
      entry.id = id ∧
        ∃ preset ∈ entry.bank.presets,
          preset.bankNumber = bankNumber ∧ preset.program = program then
    []
  else
    [.noSuchPreset id bankNumber program]

/-- There has to be room for another bank. -/
def roomFaults (synth : Synth) : List SynthError :=
  if synth.banks.entries.length < synth.configuration.maxBanks then
    []
  else
    [.outOfBanks synth.configuration.maxBanks]

end Synth

/-- All that is wrong with a command, in the order in which it counts. -/
def Command.faults
    (loader : BankLoader)
    (synth : Synth) :
    Command → List SynthError
  | .addBank _ _ => synth.roomFaults
  | .load path _ => loaderFaults loader path ++ synth.roomFaults
  | .unload id _ => synth.bankFaults id
  | .programSelect channel id bankNumber program =>
      synth.channelFaults channel ++ synth.bankFaults id ++
        synth.presetFaults id bankNumber program
  | .noteOn channel key velocity
  | .midi (.noteOn channel key velocity) =>
      synth.channelFaults channel ++ keyFaults key ++ velocityFaults velocity
  | .noteOff channel key
  | .midi (.noteOff channel key _) =>
      synth.channelFaults channel ++ keyFaults key
  | .allNotesOff channel?
  | .allSoundsOff channel? => channel?.toList.flatMap synth.channelFaults
  | .programChange channel _
  | .controlChange channel _ _
  | .pitchBend channel _
  | .midi (.programChange channel _)
  | .midi (.controlChange channel _ _)
  | .midi (.pitchBend channel _) => synth.channelFaults channel

/-- An event has the faults of its channel before those of its note. -/
theorem Command.faults_midi
    (loader : BankLoader)
    (event : MidiEvent)
    (synth : Synth) :
    (Command.midi event).faults loader synth =
      synth.channelFaults event.channel ++ noteFaults event := by
  cases event <;> simp [faults, noteFaults, MidiEvent.channel]

/-! ## The order of the checks -/

namespace Outcome

/--
The call fails with the first of some faults, if there are any; and if it
fails, nothing but the parked references has changed.
-/
structure FailsWith
    (faults : List SynthError)
    (before : Synth)
    (outcome : Outcome Value) : Prop where
  first :
    ∀ error,
      outcome.result = .error error ↔ faults.head? = some error
  unchanged :
    ∀ error,
      outcome.result = .error error →
      outcome.synth = before ∨ outcome.synth = before.reclaimed

namespace FailsWith

variable {faults : List SynthError} {before : Synth}

/-- A call that cannot fail has no faults. -/
theorem complete
    (log : List LogEvent)
    (before after : Synth) :
    (after.complete log).FailsWith [] before where
  first := by simp [Synth.complete, Synth.conclude]
  unchanged := by
    intro error failed
    simp [Synth.complete, Synth.conclude] at failed

/-- A change that fails with the first of its faults is all that can fail. -/
theorem concludeWith
    {changed : Except SynthError (Value × Synth)}
    (first :
      ∀ error, changed = .error error ↔ faults.head? = some error)
    (tell : Value → List LogEvent) :
    (before.concludeWith changed tell).FailsWith faults before := by
  cases changed with
  | error other =>
      refine ⟨fun error => ?_, fun _ _ => .inr rfl⟩
      rw [← first error]
      simp [Synth.concludeWith, Synth.conclude]
  | ok value =>
      refine ⟨fun error => ?_, fun error failed => ?_⟩
      · rw [← first error]
        simp [Synth.concludeWith, Synth.conclude]
      · simp [Synth.concludeWith, Synth.conclude] at failed

/-- A check comes before all faults of the call that it lets through. -/
theorem guarded
    {call : Outcome Value}
    (fails : call.FailsWith faults before)
    (valid : Prop)
    [Decidable valid]
    (error : SynthError) :
    (if valid then call else .rejected error before).FailsWith
      ((if valid then [] else [error]) ++ faults) before := by
  by_cases passes : valid
  · simpa [passes] using fails
  · simp only [passes, if_false]
    exact ⟨by simp [rejected], fun _ _ => .inl rfl⟩

/-- What is made of the value of a call has nothing to do with its faults. -/
theorem map
    {outcome : Outcome First}
    (fails : outcome.FailsWith faults before)
    {last : Outcome Second}
    (change : First → Second)
    (sameResult : last.result = outcome.result.map change)
    (sameSynth : last.synth = outcome.synth) :
    last.FailsWith faults before := by
  have sameErrors :
      ∀ error,
        last.result = .error error ↔ outcome.result = .error error := by
    intro error
    rw [sameResult]
    cases outcome.result <;> simp [Except.map]
  refine ⟨fun error => (sameErrors error).trans (fails.first error), ?_⟩
  intro error failed
  rw [sameSynth]
  exact fails.unchanged error ((sameErrors error).mp failed)

end FailsWith

end Outcome

namespace Synth

/-! ## What the table refuses -/

/-- A bank is refused where there is no room for it, and only there. -/
theorem publish_eq_error_iff
    {synth : Synth}
    (limited : synth.banks.limit = synth.configuration.maxBanks)
    (bank : Bank)
    (updatePresets : Bool)
    (error : SynthError) :
    synth.publish bank updatePresets = .error error ↔
      synth.roomFaults.head? = some error := by
  by_cases room : synth.banks.entries.length < synth.configuration.maxBanks
  · cases updatePresets <;>
      simp [publish, BankTable.insert, roomFaults, limited, room,
        Nat.not_le.mpr room]
  · simp [publish, BankTable.insert, roomFaults, limited, room,
      Nat.not_lt.mp room]

/-- A bank cannot be taken out if it is not there, and else it can. -/
theorem withdraw_eq_error_iff
    (id : BankId)
    (updatePresets : Bool)
    (synth : Synth)
    (error : SynthError) :
    synth.withdraw id updatePresets = .error error ↔
      (synth.bankFaults id).head? = some error := by
  cases found : synth.banks.get? id with
  | none =>
      have absent := BankTable.get?_eq_none_iff.mp found
      simp [withdraw, BankTable.remove?, found, bankFaults, absent]
  | some entry =>
      obtain ⟨member, sameId⟩ := BankTable.mem_of_get? found
      have present : ∃ entry ∈ synth.banks.entries, entry.id = id :=
        ⟨entry, member, sameId⟩
      simp [withdraw, BankTable.remove?, found, bankFaults, present]

/--
A preset is not found for want of its bank, or else because that has none of
the address.
-/
theorem selectProgram_eq_error_iff
    {synth : Synth}
    (table : synth.banks.WellFormed)
    (channel : Nat)
    (id : BankId)
    (bankNumber program : Nat)
    (error : SynthError) :
    synth.selectProgram channel id bankNumber program = .error error ↔
      (synth.bankFaults id ++
        synth.presetFaults id bankNumber program).head? = some error := by
  cases found : synth.banks.get? id with
  | none =>
      have absent := BankTable.get?_eq_none_iff.mp found
      simp [selectProgram, found, bankFaults, absent]
  | some entry =>
      obtain ⟨member, sameId⟩ := BankTable.mem_of_get? found
      have present : ∃ entry ∈ synth.banks.entries, entry.id = id :=
        ⟨entry, member, sameId⟩
      -- There is no other entry of this handle that could have the preset.
      have onlyEntry :
          (∃ other ∈ synth.banks.entries,
              other.id = id ∧
                ∃ preset ∈ other.bank.presets,
                  preset.bankNumber = bankNumber ∧
                    preset.program = program) ↔
            ∃ preset ∈ entry.bank.presets,
              preset.bankNumber = bankNumber ∧
                preset.program = program := by
        constructor
        · rintro ⟨other, otherMember, otherId, addressed⟩
          have same :=
            table.eq_of_id_eq otherMember member (otherId.trans sameId.symm)
          rwa [same] at addressed
        · intro addressed
          exact ⟨entry, member, sameId, addressed⟩
      cases addressed : entry.bank.presetIndex? bankNumber program with
      | none =>
          have missing := Bank.presetIndex?_eq_none_iff.mp addressed
          simp only [selectProgram, found, addressed, bankFaults, present,
            presetFaults, onlyEntry, missing]
          simp
      | some preset =>
          have listed :
              ∃ preset ∈ entry.bank.presets,
                preset.bankNumber = bankNumber ∧
                  preset.program = program := by
            apply Classical.byContradiction
            intro missing
            rw [Bank.presetIndex?_eq_none_iff.mpr missing] at addressed
            cases addressed
          simp only [selectProgram, found, addressed, bankFaults, present,
            presetFaults, onlyEntry, listed]
          simp

/-! ## Every call -/

/-- The table and the channels are as many as the configuration says. -/
structure Sized (synth : Synth) : Prop where
  channels : synth.channels.length = synth.configuration.channels
  banks : synth.banks.limit = synth.configuration.maxBanks

namespace Sized

theorem new (configuration : SynthConfiguration) :
    (Synth.new configuration).Sized where
  channels := by simp [Synth.new]
  banks := rfl

/-- No mutation makes room for more channels or banks. -/
theorem invariant [Transcendental] : Invariant Synth.Sized where
  mutation := by
    intro mutation synth sized
    obtain ⟨sameConfiguration, sameLength⟩ := mutation.apply_frame synth
    refine ⟨by rw [sameConfiguration, sameLength, sized.channels], ?_⟩
    rw [sameConfiguration, ← sized.banks]
    have effect := mutation.effect synth
    generalize mutation.apply synth = after at effect ⊢
    cases effect with
    | published updatePresets inserted =>
        rw [(BankTable.insert_eq_ok inserted).2]
    | withdrawn updatePresets removed =>
        rw [(BankTable.remove?_eq_some removed).2]
    | _ => rfl
  drops := fun _ sized => ⟨sized.channels, sized.banks⟩
  block := fun _ _ sized => ⟨sized.channels, sized.banks⟩

end Sized

variable {faults : List SynthError} {synth : Synth}

theorem failsWith_onChannel
    (sized : synth.Sized)
    {call : Synth → Outcome Value}
    (channel : Nat)
    (fails : (call synth).FailsWith faults synth) :
    (synth.onChannel channel call).FailsWith
      (synth.channelFaults channel ++ faults) synth := by
  have guarded :=
    fails.guarded (channel < synth.channels.length)
      (.invalidChannel channel synth.channels.length)
  by_cases valid : channel < synth.channels.length
  · simpa [onChannel, channelError?, channelFaults, ← sized.channels, valid,
      Nat.not_le.mpr valid] using guarded
  · simpa [onChannel, channelError?, channelFaults, ← sized.channels, valid,
      Nat.not_lt.mp valid] using guarded

theorem failsWith_onKey
    {call : Synth → Outcome Value}
    (key : Nat)
    (fails : (call synth).FailsWith faults synth) :
    (synth.onKey key call).FailsWith (keyFaults key ++ faults) synth := by
  have guarded := fails.guarded (key ≤ 127) (.invalidKey key)
  by_cases valid : key ≤ 127
  · simpa [onKey, keyFaults, valid, Nat.not_lt.mpr valid] using guarded
  · simpa [onKey, keyFaults, valid, Nat.not_le.mp valid] using guarded

theorem failsWith_addBank
    (sized : synth.Sized)
    (bank : Bank)
    (updatePresets : Bool) :
    (synth.addBank bank updatePresets).FailsWith synth.roomFaults synth :=
  (Outcome.FailsWith.concludeWith
    (publish_eq_error_iff sized.banks bank updatePresets) _).map Prod.fst rfl rfl

theorem failsWith_unload
    (id : BankId)
    (updatePresets : Bool) :
    (synth.unload id updatePresets).FailsWith (synth.bankFaults id) synth :=
  (Outcome.FailsWith.concludeWith
    (withdraw_eq_error_iff id updatePresets synth) _).map (fun _ => ()) rfl rfl

/-- A path that leads to no bank is all that loading adds to the faults. -/
theorem failsWith_load
    (sized : synth.Sized)
    (loader : BankLoader)
    (path : String)
    (updatePresets : Bool) :
    (synth.load loader path updatePresets).FailsWith
      (loaderFaults loader path ++ synth.roomFaults) synth := by
  cases loaded : (loader path).bank with
  | error error =>
      simp only [load, loaded, loaderFaults]
      exact ⟨by simp [Outcome.after, Outcome.rejected], fun _ _ => .inl rfl⟩
  | ok bank =>
      have adds := failsWith_addBank sized bank updatePresets
      simp only [load, loaded, loaderFaults, List.nil_append]
      apply adds.map id
      · cases added : (synth.addBank bank updatePresets).result <;>
          simp [Outcome.after, Outcome.andThen, added, Except.map]
      · cases added : (synth.addBank bank updatePresets).result <;>
          simp [Outcome.after, Outcome.andThen, added]

theorem failsWith_programSelect
    (sized : synth.Sized)
    (table : synth.banks.WellFormed)
    (channel : Nat)
    (id : BankId)
    (bankNumber program : Nat) :
    (synth.programSelect channel id bankNumber program).FailsWith
      (synth.channelFaults channel ++
        (synth.bankFaults id ++ synth.presetFaults id bankNumber program))
      synth :=
  failsWith_onChannel sized channel
    (.concludeWith
      (selectProgram_eq_error_iff table channel id bankNumber program) _)

/-- A call that only needs its channel to be there fails for nothing else. -/
theorem failsWith_channelCall
    (sized : synth.Sized)
    (channel : Nat)
    {call : Synth → Outcome Unit}
    {log : List LogEvent}
    {after : Synth}
    (completes : call synth = after.complete log) :
    (synth.onChannel channel call).FailsWith (synth.channelFaults channel)
      synth := by
  rw [← List.append_nil (synth.channelFaults channel)]
  apply failsWith_onChannel sized
  rw [completes]
  exact .complete log synth after

theorem failsWith_programChange
    (sized : synth.Sized)
    (channel program : Nat) :
    (synth.programChange channel program).FailsWith
      (synth.channelFaults channel) synth :=
  failsWith_channelCall sized channel rfl

theorem failsWith_controlChange
    (sized : synth.Sized)
    (channel controller value : Nat) :
    (synth.controlChange channel controller value).FailsWith
      (synth.channelFaults channel) synth :=
  failsWith_channelCall sized channel rfl

theorem failsWith_pitchBend
    (sized : synth.Sized)
    (channel value : Nat) :
    (synth.pitchBend channel value).FailsWith
      (synth.channelFaults channel) synth :=
  failsWith_channelCall sized channel rfl

theorem failsWith_noteOff
    (sized : synth.Sized)
    (channel key : Nat) :
    (synth.noteOff channel key).FailsWith
      (synth.channelFaults channel ++ keyFaults key) synth := by
  rw [← List.append_nil (keyFaults key)]
  apply failsWith_onChannel sized
  apply failsWith_onKey
  exact .complete [] synth _

/-- A call on all channels cannot fail, and one on a channel needs it. -/
theorem failsWith_onChannels
    (sized : synth.Sized)
    (channel? : Option Nat)
    {call : Synth → Outcome Unit}
    {log : List LogEvent}
    {after : Synth}
    (completes : call synth = after.complete log) :
    (synth.onChannels channel? call).FailsWith
      (channel?.toList.flatMap synth.channelFaults) synth := by
  cases channel? with
  | none =>
      rw [onChannels, completes]
      exact .complete log synth after
  | some channel =>
      simpa [onChannels] using failsWith_channelCall sized channel completes

variable [Transcendental]

theorem failsWith_noteOn
    (sized : synth.Sized)
    (channel key velocity : Nat) :
    (synth.noteOn channel key velocity).FailsWith
      (synth.channelFaults channel ++
        (keyFaults key ++ velocityFaults velocity)) synth := by
  apply failsWith_onChannel sized
  apply failsWith_onKey
  rw [← List.append_nil (velocityFaults velocity)]
  simp only [Bool.and_eq_true, decide_eq_true_eq]
  exact (Outcome.FailsWith.complete _ synth _).guarded _
    (.invalidVelocity velocity)

/-- An event fails for what is wrong with its channel, or else with its note. -/
theorem failsWith_processMidi
    (sized : synth.Sized)
    (event : MidiEvent) :
    (synth.processMidi event).FailsWith
      (synth.channelFaults event.channel ++ noteFaults event) synth := by
  cases event with
  | noteOn channel key velocity =>
      exact failsWith_noteOn sized channel key velocity
  | noteOff channel key velocity =>
      exact failsWith_noteOff sized channel key
  | controlChange channel controller value =>
      rw [noteFaults, List.append_nil]
      exact failsWith_controlChange sized channel controller value
  | pitchBend channel value =>
      rw [noteFaults, List.append_nil]
      exact failsWith_pitchBend sized channel value
  | programChange channel program =>
      rw [noteFaults, List.append_nil]
      exact failsWith_programChange sized channel program

/-- A command fails with the first of its faults, and then changes nothing. -/
theorem failsWith_perform
    (sized : synth.Sized)
    (table : synth.banks.WellFormed)
    (loader : BankLoader)
    (command : Command) :
    (synth.perform loader command).FailsWith (command.faults loader synth)
      synth := by
  have done
      {outcome : Outcome Unit}
      (fails : outcome.FailsWith (command.faults loader synth) synth) :
      outcome.replyingDone.FailsWith (command.faults loader synth) synth :=
    fails.map (fun _ => .done) rfl rfl
  cases command with
  | addBank bank updatePresets =>
      exact (failsWith_addBank sized bank updatePresets).map .loaded rfl rfl
  | load path updatePresets =>
      exact (failsWith_load sized loader path updatePresets).map .loaded rfl rfl
  | unload id updatePresets =>
      exact done (failsWith_unload id updatePresets)
  | programSelect channel id bankNumber program =>
      have selects :=
        failsWith_programSelect sized table channel id bankNumber program
      rw [← List.append_assoc] at selects
      exact done selects
  | programChange channel program =>
      exact done (failsWith_programChange sized channel program)
  | noteOn channel key velocity =>
      have starts := failsWith_noteOn sized channel key velocity
      rw [← List.append_assoc] at starts
      exact done starts
  | noteOff channel key =>
      exact done (failsWith_noteOff sized channel key)
  | allNotesOff channel? =>
      exact done (failsWith_onChannels sized channel? rfl)
  | allSoundsOff channel? =>
      exact done (failsWith_onChannels sized channel? rfl)
  | controlChange channel controller value =>
      exact done (failsWith_controlChange sized channel controller value)
  | pitchBend channel value =>
      exact done (failsWith_pitchBend sized channel value)
  | midi event =>
      apply done
      rw [Command.faults_midi]
      exact failsWith_processMidi sized event

/--
At every point of a session, a control call fails exactly if something is wrong
with it, and then with the first thing that is.  A call that fails leaves the
channels, the voices, the table with its next handle, and the number of the next
note as they were; the queue too, unless the call has emptied it.
-/
theorem run_failed_calls_change_nothing
    (configuration : SynthConfiguration)
    (actions : List Action)
    (loader : BankLoader)
    (command : Command) :
    let synth := (Synth.new configuration).run actions
    let outcome := synth.perform loader command
    (∀ error,
      outcome.result = .error error ↔
        (command.faults loader synth).head? = some error) ∧
      ∀ error,
        outcome.result = .error error →
        outcome.synth.configuration = synth.configuration ∧
          outcome.synth.channels = synth.channels ∧
          outcome.synth.pool.voices = synth.pool.voices ∧
          outcome.synth.banks = synth.banks ∧
          outcome.synth.nextSerial = synth.nextSerial ∧
          (outcome.synth.pool.retired = synth.pool.retired ∨
            outcome.synth.pool.retired =
              { synth.pool.retired with parked := [] }) := by
  intro synth outcome
  have sized : synth.Sized :=
    Sized.invariant.run actions (Sized.new configuration)
  have bound : synth.Bound :=
    Bound.invariant.run actions (Bound.new configuration)
  have fails : outcome.FailsWith (command.faults loader synth) synth :=
    failsWith_perform sized bound.table loader command
  refine ⟨fails.first, fun error failed => ?_⟩
  rcases fails.unchanged error failed with same | drained
  · rw [same]
    exact ⟨rfl, rfl, rfl, rfl, rfl, .inl rfl⟩
  · rw [drained]
    exact ⟨rfl, rfl, rfl, rfl, rfl, .inr rfl⟩

/-- Of all that is wrong with a note, its channel counts first. -/
example :
    let faults : List SynthError :=
      (Command.noteOn 1 200 0).faults (fun _ => .loaded (.empty "none"))
        (Synth.new ⟨44100, 1, 1, 1, 1, .linear⟩)
    faults = [.invalidChannel 1 1, .invalidKey 200, .invalidVelocity 0] := by
  decide

end Synth

end Polyphony.Engine
