import Polyphony.Proofs.Mutation

namespace Polyphony.Engine

/-!
# Channels play presets that are there

A channel refers to its preset by a handle and a position.  Banks come and go,
and five calls write bindings; still the handle of a binding is always that of
a loaded bank, and the position always one of its presets.  The calls that
follow a binding can therefore rely on finding what it leads to.
-/

open Instrument (Bank BankId Match PresetSummary)
open Number (Transcendental)

namespace Binding

/-- What the binding leads to, if anything, is a preset of a loaded bank. -/
def ResolvesIn
    (banks : BankTable)
    (binding : Binding) : Prop :=
  ∀ id position,
    binding.target? = some (id, position) →
    ∃ entry,
      banks.get? id = some entry ∧
        position < entry.bank.presets.length

theorem noInstrument_resolvesIn (banks : BankTable) :
    Binding.noInstrument.ResolvesIn banks := by
  intro id position target
  cases target

/-- The answer of a loaded bank can be bound to. -/
theorem resolved_resolvesIn
    {banks : BankTable}
    {bankNumber program : Nat}
    {entry : BankReference}
    {found : Match}
    (loaded : banks.get? entry.id = some entry)
    (answered : candidate? bankNumber program entry = some found) :
    (Binding.resolved found).ResolvesIn banks := by
  intro id position target
  obtain ⟨sameId, inside⟩ := candidate?_eq_some answered
  cases target
  rw [sameId]
  exact ⟨entry, loaded, inside⟩

namespace ResolvesIn

/-- A binding keeps its preset while other banks are loaded. -/
theorem insert
    {bank : Bank}
    {banks after : BankTable}
    {id : BankId}
    {binding : Binding}
    (resolves : binding.ResolvesIn banks)
    (insertion : banks.insert bank = .ok (id, after)) :
    binding.ResolvesIn after := by
  intro other position target
  obtain ⟨entry, found, inside⟩ := resolves _ _ target
  exact ⟨entry, BankTable.get?_of_insert insertion found, inside⟩

/-- A binding keeps its preset while other banks are unloaded. -/
theorem remove?
    {banks after : BankTable}
    {id : BankId}
    {removed : BankReference}
    {binding : Binding}
    (resolves : binding.ResolvesIn banks)
    (removal : banks.remove? id = some (removed, after))
    (elsewhere : binding.bankId? ≠ some id) :
    binding.ResolvesIn after := by
  intro other position target
  have different : other ≠ id := by
    intro same
    simp [bankId?, target, same] at elsewhere
  obtain ⟨entry, found, inside⟩ := resolves _ _ target
  refine ⟨entry, ?_, inside⟩
  rw [BankTable.get?_of_remove? removal different]
  exact found

end ResolvesIn

end Binding

namespace Channel

/-- An offer leaves a binding alone or moves it to the bank that is offered. -/
theorem offered_resolvesIn
    {banks : BankTable}
    {entry : BankReference}
    {channel : Channel}
    (loaded : banks.get? entry.id = some entry)
    (resolves : channel.binding.ResolvesIn banks) :
    (channel.offered entry).binding.ResolvesIn banks := by
  unfold offered
  split
  · rename_i found taken
    obtain ⟨answered, -⟩ := Option.filter_eq_some_iff.mp taken
    unfold offer
    split
    · exact Binding.resolved_resolvesIn loaded answered
    · exact resolves
  · exact resolves

/-- The best match among loaded banks can be bound to. -/
theorem resolveTo_resolvesIn
    {banks : BankTable}
    {bankNumber program : Nat}
    {found? : Option Match}
    (wellFormed : banks.WellFormed)
    (searched :
      ∀ found,
        found? = some found →
        banks.bestMatch? bankNumber program = some found)
    (channel : Channel) :
    (channel.resolveTo found?).binding.ResolvesIn banks := by
  cases found? with
  | none =>
      exact Binding.noInstrument_resolvesIn banks
  | some found =>
      obtain ⟨entry, member, answered⟩ :=
        BankTable.bestMatch?_eq_some (searched found rfl)
      exact Binding.resolved_resolvesIn
        (wellFormed.get?_of_mem member) answered

end Channel

namespace Synth

/-- The table is in order, and every binding leads to a preset of its banks. -/
structure Bound (synth : Synth) : Prop where
  table : synth.banks.WellFormed
  resolves :
    ∀ channel ∈ synth.channels, channel.binding.ResolvesIn synth.banks

namespace Bound

theorem new (configuration : SynthConfiguration) :
    (Synth.new configuration).Bound where
  table := BankTable.WellFormed.new configuration.maxBanks
  resolves := by
    intro channel member
    obtain ⟨index, -, isNew⟩ := List.mem_map.mp member
    subst channel
    exact Binding.noInstrument_resolvesIn _

/-- Changing one channel keeps bindings good if the change does. -/
theorem changeChannel
    {synth : Synth}
    (bound : synth.Bound)
    (number : Nat)
    {change : Channel → Channel}
    (keeps :
      ∀ channel : Channel,
        channel.binding.ResolvesIn synth.banks →
        (change channel).binding.ResolvesIn synth.banks) :
    (synth.changeChannel number change).Bound where
  table := bound.table
  resolves :=
    forall_changeChannel (fun channel => channel.binding.ResolvesIn synth.banks)
      (fun channel _ => keeps channel) bound.resolves

/-- Whatever a mutation does, every binding is good after it. -/
theorem mutation
    [Transcendental]
    {synth : Synth}
    (bound : synth.Bound)
    (mutation : Mutation) :
    (mutation.apply synth).Bound := by
  have effect := mutation.effect synth
  generalize mutation.apply synth = after at effect ⊢
  cases effect with
  | @published bank id banks updatePresets inserted =>
      refine ⟨bound.table.insert inserted, ?_⟩
      intro channel member
      cases updatePresets with
      | false =>
          exact (bound.resolves channel member).insert inserted
      | true =>
          obtain ⟨old, oldMember, isOffered⟩ := List.mem_map.mp member
          subst channel
          exact Channel.offered_resolvesIn
            (bound.table.get?_inserted inserted)
            ((bound.resolves old oldMember).insert inserted)
  | @withdrawn id entry banks updatePresets removed =>
      have remaining := bound.table.remove? removed
      refine ⟨remaining, ?_⟩
      intro channel member
      obtain ⟨old, oldMember, isRebound⟩ := List.mem_map.mp member
      subst channel
      unfold rebound
      split
      · apply Channel.resolveTo_resolvesIn remaining
        intro found isFallback
        cases updatePresets with
        | false => cases isFallback
        | true => exact isFallback
      · rename_i elsewhere
        exact (bound.resolves old oldMember).remove? removed
          (by simpa [Channel.playsFrom] using elsewhere)
  | refused updatePresets inserted => exact bound
  | unknown updatePresets removed => exact bound
  | @selected _ channel preset bankNumber program id entry _ _ found inside =>
      apply bound.changeChannel
      intro old _ other position target
      cases target
      exact ⟨entry, found, inside⟩
  | searched bankNumber program =>
      apply bound.changeChannel
      intro old _
      exact Channel.resolveTo_resolvesIn bound.table (fun _ same => same) _
  | adjusted leavesTable notNote sameBinding =>
      apply bound.changeChannel
      intro old resolves
      rw [sameBinding]
      exact resolves
  | noteStarted key velocity sounding => exact ⟨bound.table, bound.resolves⟩
  | silent key velocity sounding => exact bound
  | released condition => exact ⟨bound.table, bound.resolves⟩
  | cut condition seconds => exact ⟨bound.table, bound.resolves⟩

/-- Mutations, drops and rendering keep every binding good. -/
theorem invariant [Transcendental] : Invariant Synth.Bound where
  mutation := fun mutation _ bound => bound.mutation mutation
  drops := by
    intro parked synth _ bound
    exact ⟨bound.table, bound.resolves⟩
  block := by
    intro frames synth bound
    exact ⟨bound.table, bound.resolves⟩

end Bound

/-- A binding that resolves gives the loaded bank and the preset it leads to. -/
theorem boundPreset?_of_resolves
    {binding : Binding}
    {synth : Synth}
    (resolves : binding.ResolvesIn synth.banks) :
    (binding = .noInstrument ∧ synth.boundPreset? binding = none) ∨
      ∃ id position source preset,
        binding.target? = some (id, position) ∧
          synth.banks.get? id = some source ∧
          source.bank.presets[position]? = some preset ∧
          synth.boundPreset? binding = some (source, preset) := by
  cases target : binding.target? with
  | none =>
      refine .inl ⟨?_, by simp [boundPreset?, target]⟩
      cases binding with
      | selected id preset => cases target
      | resolved found => cases target
      | noInstrument => rfl
  | some place =>
      obtain ⟨id, position⟩ := place
      obtain ⟨source, found, inside⟩ := resolves id position target
      have listed := List.getElem?_eq_getElem inside
      refine .inr ⟨id, position, source, _, rfl, found, listed, ?_⟩
      simp [boundPreset?, target, found, inside]

/-- A channel that is there has a binding that resolves. -/
theorem Bound.exists_channel
    {configuration : SynthConfiguration}
    {synth : Synth}
    (bound : synth.Bound)
    (configured : synth.Configured configuration)
    {number : Nat}
    (valid : number < configuration.channels) :
    ∃ channel,
      synth.channels[number]? = some channel ∧
        channel.binding.ResolvesIn synth.banks := by
  have inside : number < synth.channels.length := by
    rw [configured.channelCount]
    exact valid
  exact ⟨synth.channels[number], List.getElem?_eq_getElem inside,
    bound.resolves _ (List.getElem_mem inside)⟩

/-- A note finds that its channel plays nothing, or it finds what it plays. -/
theorem startNote_of_resolves
    [Transcendental]
    {number : Nat}
    {synth : Synth}
    {channel : Channel}
    (found : synth.channels[number]? = some channel)
    (resolves : channel.binding.ResolvesIn synth.banks) :
    (channel.binding = .noInstrument ∧
        ∀ key velocity,
          synth.startNote number key velocity = (.silent, synth)) ∨
      ∃ id position source preset,
        channel.binding.target? = some (id, position) ∧
          synth.banks.get? id = some source ∧
          source.bank.presets[position]? = some preset ∧
          ∀ key velocity,
            let started :=
              synth.pool.startLayers
                ⟨number, key, velocity, synth.nextSerial⟩ source
                (preset.layers key velocity)
            synth.startNote number key velocity =
              (started.1,
                { synth with
                  pool := started.2
                  nextSerial := synth.nextSerial + 1 }) := by
  rcases boundPreset?_of_resolves resolves with
    ⟨nothing, unbound⟩ |
      ⟨id, position, source, preset, target, loaded, listed, leads⟩
  · refine .inl ⟨nothing, fun key velocity => ?_⟩
    have silent : synth.notePreset? number = none := by
      simp [notePreset?, found, unbound]
    simp [startNote_eq, silent]
  · refine .inr ⟨id, position, source, preset, target, loaded, listed,
      fun key velocity => ?_⟩
    have sounding : synth.notePreset? number = some (source, preset) := by
      simp [notePreset?, found, leads]
    simp [startNote_eq, sounding]

/-- A channel shows a preset exactly if it is bound to one. -/
theorem channelPreset_of_resolves
    {number : Nat}
    {synth : Synth}
    {channel : Channel}
    (found : synth.channels[number]? = some channel)
    (resolves : channel.binding.ResolvesIn synth.banks) :
    ∃ binding preset?,
      synth.binding number = .ok binding ∧
        synth.channelPreset number = .ok preset? ∧
        (preset?.isSome ↔ binding ≠ .noInstrument) := by
  have bindingShape : synth.binding number = .ok channel.binding := by
    simp [Synth.binding, found]
  refine ⟨channel.binding, _, bindingShape,
    by rw [channelPreset, bindingShape]; rfl, ?_⟩
  rcases boundPreset?_of_resolves resolves with
    ⟨nothing, unbound⟩ |
      ⟨id, position, source, preset, target, loaded, listed, leads⟩
  · simp only [unbound]
    simp [nothing]
  · have isBound : channel.binding ≠ .noInstrument := by
      intro nothing
      rw [nothing] at target
      cases target
    simp [leads, isBound]

/--
At every point of a session, every channel's binding leads to a preset of a
loaded bank.  So a note on a channel either finds that the channel plays
nothing, or finds bank and preset and starts the preset's layers, and a channel
shows a preset exactly if it is bound to one.
-/
theorem run_bindings_lead_to_presets
    [Transcendental]
    (configuration : SynthConfiguration)
    (actions : List Action) :
    let synth := (Synth.new configuration).run actions
    (∀ channel ∈ synth.channels,
      ∀ id position,
        channel.binding.target? = some (id, position) →
        ∃ entry,
          synth.banks.get? id = some entry ∧
            position < entry.bank.presets.length) ∧
      (∀ number < configuration.channels,
        ∃ channel,
          synth.channels[number]? = some channel ∧
            ((channel.binding = .noInstrument ∧
                ∀ key velocity,
                  synth.startNote number key velocity = (.silent, synth)) ∨
              ∃ id position source preset,
                channel.binding.target? = some (id, position) ∧
                  synth.banks.get? id = some source ∧
                  source.bank.presets[position]? = some preset ∧
                  ∀ key velocity,
                    let started :=
                      synth.pool.startLayers
                        ⟨number, key, velocity, synth.nextSerial⟩ source
                        (preset.layers key velocity)
                    synth.startNote number key velocity =
                      (started.1,
                        { synth with
                          pool := started.2
                          nextSerial := synth.nextSerial + 1 }))) ∧
      ∀ number < configuration.channels,
        ∃ binding preset?,
          synth.binding number = .ok binding ∧
            synth.channelPreset number = .ok preset? ∧
            (preset?.isSome ↔ binding ≠ .noInstrument) := by
  intro synth
  have bound : synth.Bound :=
    Bound.invariant.run actions (Bound.new configuration)
  have configured : synth.Configured configuration :=
    (Configured.invariant configuration).run actions
      (Configured.new configuration)
  refine ⟨bound.resolves, ?_, ?_⟩
  · intro number valid
    obtain ⟨channel, found, resolves⟩ := bound.exists_channel configured valid
    exact ⟨channel, found, startNote_of_resolves found resolves⟩
  · intro number valid
    obtain ⟨channel, found, resolves⟩ := bound.exists_channel configured valid
    exact channelPreset_of_resolves found resolves

end Synth

end Polyphony.Engine
