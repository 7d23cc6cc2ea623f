import Polyphony.Proofs.Bindings
import Polyphony.Proofs.Ledger

namespace Polyphony.Engine

/-!
# Conservation of references

A handle stands for one bank for ever, so references can be counted by their
handles.  The count of a handle is what the ledger says, and every call that
drains leaves table and voices as the only places where references are.
-/

open Instrument (Bank BankId)
open Number (Transcendental)

/-! ## Handles -/

namespace Synth

/-- References of one handle are to one bank, and all handles were given out. -/
structure Coherent (synth : Synth) : Prop where
  single :
    ∀ {first second : BankReference},
      first ∈ synth.holders →
      second ∈ synth.holders →
      first.id = second.id →
      first = second
  givenOut :
    ∀ {reference : BankReference},
      reference ∈ synth.holders →
      reference.id.number < synth.banks.nextNumber

theorem holders_new (configuration : SynthConfiguration) :
    (Synth.new configuration).holders = [] := by
  simp [holders, VoicePool.references, VoicePool.heldBy, Synth.new,
    BankTable.new, VoicePool.new, ReclamationQueue.new, Voice.new]

namespace Coherent

theorem new (configuration : SynthConfiguration) :
    (Synth.new configuration).Coherent := by
  constructor
  · intro first second member
    simp [holders_new] at member
  · intro reference member
    simp [holders_new] at member

/-- Fewer references, and no handle taken back. -/
theorem subset
    {before after : Synth}
    (coherent : before.Coherent)
    (fewer :
      ∀ reference ∈ after.holders, reference ∈ before.holders)
    (later : before.banks.nextNumber ≤ after.banks.nextNumber) :
    after.Coherent where
  single := by
    intro first second firstMember secondMember same
    exact coherent.single (fewer first firstMember)
      (fewer second secondMember) same
  givenOut := by
    intro reference member
    exact Nat.lt_of_lt_of_le
      (coherent.givenOut (fewer reference member)) later

/-- One reference more, under the next handle. -/
theorem cons
    {before after : Synth}
    {fresh : BankReference}
    (coherent : before.Coherent)
    (one :
      ∀ reference ∈ after.holders,
        reference = fresh ∨ reference ∈ before.holders)
    (isNext : fresh.id.number = before.banks.nextNumber)
    (later : after.banks.nextNumber = before.banks.nextNumber + 1) :
    after.Coherent where
  single := by
    intro first second firstMember secondMember same
    have notGivenOut
        {reference : BankReference}
        (member : reference ∈ before.holders) :
        reference.id ≠ fresh.id := by
      intro sameId
      have before := coherent.givenOut member
      rw [sameId, isNext] at before
      exact Nat.lt_irrefl _ before
    rcases one first firstMember with firstFresh | firstOld
    · rcases one second secondMember with secondFresh | secondOld
      · rw [firstFresh, secondFresh]
      · rw [firstFresh] at same
        exact absurd same.symm (notGivenOut secondOld)
    · rcases one second secondMember with secondFresh | secondOld
      · rw [secondFresh] at same
        exact absurd same (notGivenOut firstOld)
      · exact coherent.single firstOld secondOld same
  givenOut := by
    intro reference member
    rw [later]
    rcases one reference member with isFresh | old
    · rw [isFresh, isNext]
      exact Nat.lt_succ_self _
    · exact Nat.lt_succ_of_lt (coherent.givenOut old)

end Coherent

end Synth

namespace Mutation

variable [Transcendental]

/-- A note starts voices of loaded banks. -/
theorem loaded_of_started
    {mutation : Mutation}
    {synth : Synth}
    {reference : BankReference}
    (member : reference ∈ mutation.started synth) :
    reference ∈ synth.banks.entries := by
  cases mutation with
  | startNote channel key velocity =>
      simp only [started] at member
      split at member
      · rename_i source preset sounding
        obtain ⟨entry, id, position, -, -, found, -⟩ :=
          Synth.notePreset?_eq_some sounding
        rw [List.eq_of_mem_replicate member]
        exact (BankTable.mem_of_get? found).1
      · cases member
  | _ => cases member

/-- A mutation publishes nothing, or one bank under the next handle. -/
theorem published_eq
    (mutation : Mutation)
    (synth : Synth) :
    (mutation.published synth = [] ∧
        (mutation.apply synth).banks.nextNumber =
          synth.banks.nextNumber) ∨
      ∃ fresh,
        mutation.published synth = [fresh] ∧
          fresh.id.number = synth.banks.nextNumber ∧
          (mutation.apply synth).banks.nextNumber =
            synth.banks.nextNumber + 1 := by
  have effect := mutation.effect synth
  generalize mutation.apply synth = after at effect ⊢
  cases effect with
  | @published bank id banks updatePresets inserted =>
      obtain ⟨sameId, afterShape⟩ := BankTable.insert_eq_ok inserted
      refine .inr ⟨⟨id, bank⟩, ?_⟩
      simp [published, inserted, afterShape, sameId]
  | refused updatePresets refusal =>
      simp [published, refusal]
  | withdrawn updatePresets removed =>
      obtain ⟨-, afterShape⟩ := BankTable.remove?_eq_some removed
      simp [published, afterShape]
  | unknown updatePresets missing => exact .inl ⟨rfl, rfl⟩
  | noteStarted key velocity sounding => exact .inl ⟨rfl, rfl⟩
  | silent key velocity sounding => exact .inl ⟨rfl, rfl⟩
  | selected leavesTable =>
      exact .inl ⟨published_of_leavesTable leavesTable, rfl⟩
  | searched bankNumber program leavesTable =>
      exact .inl ⟨published_of_leavesTable leavesTable, rfl⟩
  | adjusted leavesTable =>
      exact .inl ⟨published_of_leavesTable leavesTable, rfl⟩
  | released condition leavesTable =>
      exact .inl ⟨published_of_leavesTable leavesTable, rfl⟩
  | cut condition seconds leavesTable =>
      exact .inl ⟨published_of_leavesTable leavesTable, rfl⟩

end Mutation

namespace SharedEngine

variable [Transcendental] {configuration : SynthConfiguration}

/-- What is held after a step was made by it, or was held before it. -/
theorem made_or_held_of_step?
    {step : LockStep}
    {before after : SharedEngine}
    (taken : before.step? step = some after)
    (roomy :
      before.synth.pool.Roomy configuration (before.slack configuration))
    {reference : BankReference}
    (member : reference ∈ after.synth.holders) :
    reference ∈ step.made before ∨ reference ∈ before.synth.holders := by
  have held : reference ∈ step.dropped before ++ after.synth.holders :=
    List.mem_append_right _ member
  exact List.mem_append.mp ((step?_holders taken roomy).mem_iff.mpr held)

/-- A step that makes no reference leaves handles as they are. -/
theorem coherent_of_noneMade
    {step : LockStep}
    {before after : SharedEngine}
    (taken : before.step? step = some after)
    (roomy :
      before.synth.pool.Roomy configuration (before.slack configuration))
    (noneMade : step.made before = [])
    (sameBanks : after.synth.banks = before.synth.banks)
    (coherent : before.synth.Coherent) :
    after.synth.Coherent := by
  refine coherent.subset ?_ (Nat.le_of_eq (by rw [sameBanks]))
  intro reference member
  rcases made_or_held_of_step? taken roomy member with new | old
  · rw [noneMade] at new
    cases new
  · exact old

/-- A mutation gives its own handle to a bank that it publishes. -/
theorem coherent_of_mutate
    {mutation : Mutation}
    {before after : SharedEngine}
    (taken : before.step? (.mutate mutation) = some after)
    (roomy :
      before.synth.pool.Roomy configuration (before.slack configuration))
    (coherent : before.synth.Coherent) :
    after.synth.Coherent := by
  have afterShape : after.synth = mutation.apply before.synth := by
    simp only [step?] at taken
    split at taken
    · cases taken
    · cases taken
      rfl
  -- A voice that is started holds a bank of the table, so it adds no handle.
  have held
      {reference : BankReference}
      (member : reference ∈ after.synth.holders) :
      reference ∈ mutation.published before.synth ∨
        reference ∈ before.synth.holders := by
    rcases made_or_held_of_step? taken roomy member with new | old
    · rcases List.mem_append.mp new with published | started
      · exact .inl published
      · exact .inr
          (List.mem_append_left _ (Mutation.loaded_of_started started))
    · exact .inr old
  rcases mutation.published_eq before.synth with
    ⟨nothing, sameNext⟩ | ⟨fresh, one, isNext, later⟩
  · refine coherent.subset ?_ (Nat.le_of_eq (by rw [afterShape, sameNext]))
    intro reference member
    rcases held member with new | old
    · rw [nothing] at new
      cases new
    · exact old
  · refine coherent.cons ?_ isNext (by rw [afterShape, later])
    intro reference member
    rcases held member with new | old
    · rw [one] at new
      exact .inl (List.mem_singleton.mp new)
    · exact .inr old

/-- No step makes two banks go by one handle. -/
theorem step?_coherent
    {step : LockStep}
    {before after : SharedEngine}
    (taken : before.step? step = some after)
    (roomy :
      before.synth.pool.Roomy configuration (before.slack configuration))
    (coherent : before.synth.Coherent) :
    after.synth.Coherent := by
  cases step with
  | mutate mutation =>
      exact coherent_of_mutate taken roomy coherent
  | beginDrain =>
      refine coherent_of_noneMade taken roomy rfl ?_ coherent
      simp only [step?] at taken
      split at taken <;> cases taken
      rfl
  | drop =>
      refine coherent_of_noneMade taken roomy rfl ?_ coherent
      simp only [step?] at taken
      split at taken
      · split at taken <;> cases taken <;> rfl
      · cases taken
  | render frames =>
      refine coherent_of_noneMade taken roomy rfl ?_ coherent
      cases taken
      exact Synth.banks_renderBlocks (blockSizes frames) before.synth

/-- At all times, a handle stands for one bank. -/
theorem run?_coherent
    {steps : List LockStep}
    {engine : SharedEngine}
    (accepted : run? steps (SharedEngine.new configuration) = some engine) :
    engine.synth.Coherent := by
  have both :=
    run?_preserves
      (fun current =>
        current.synth.pool.Roomy configuration
            (current.slack configuration) ∧
          current.synth.Coherent)
      (fun taken held =>
        ⟨step?_roomy taken held.1, step?_coherent taken held.1 held.2⟩)
      accepted
      ⟨Synth.roomy_new configuration, Synth.Coherent.new configuration⟩
  exact both.2

end SharedEngine

/-! ## Counting by handle -/

namespace BankTable

/-- A table has one entry for each of its handles. -/
theorem WellFormed.count_eq
    {table : BankTable}
    (wellFormed : table.WellFormed)
    (id : BankId) :
    table.count id = if id ∈ table.ids then 1 else 0 := by
  have distinct : table.ids.Nodup := by
    refine List.pairwise_map.mpr (wellFormed.ascending.imp ?_)
    intro first second ordered same
    rw [same] at ordered
    exact Nat.lt_irrefl _ ordered
  rw [← distinct.count]
  simp only [BankTable.count, ids, List.count, List.countP_map]
  congr 1

end BankTable

namespace Synth

/-- References counted where they are, and counted together. -/
theorem references_eq
    (id : BankId)
    (synth : Synth) :
    synth.references id = synth.holders.countP (·.id = id) := by
  have voices :
      (VoicePool.heldBy synth.pool.voices).countP (·.id = id) =
        synth.voiceReferences id := by
    rw [VoicePool.heldBy, List.countP_filterMap]
    apply List.countP_congr
    intro voice _
    cases held : voice.source? <;> simp [VoicePool.holdsReference, held]
  rw [references, holders, VoicePool.references, List.countP_append,
    List.countP_append, voices, Nat.add_assoc]
  rfl

/-- A drained queue leaves no reference to a bank that nothing else holds. -/
theorem references_of_drained
    {id : BankId}
    {synth : Synth}
    (drained : synth.pool.retired.parked = [])
    (unloaded : id ∉ synth.banks.ids)
    (unread :
      ∀ reference ∈ VoicePool.heldBy synth.pool.voices, reference.id ≠ id) :
    synth.references id = 0 := by
  rw [references_eq, List.countP_eq_zero]
  intro reference member
  rw [holders, VoicePool.references, drained, List.append_nil] at member
  rcases List.mem_append.mp member with inTable | inVoice
  · intro same
    have isId := of_decide_eq_true same
    exact unloaded (List.mem_map.mpr ⟨reference, inTable, isId⟩)
  · simpa using unread reference inVoice

/-- Voices that are not free hold the bank that they are named for. -/
theorem voiceReferences_eq
    {synth : Synth}
    (wellFormed : synth.pool.WellFormed)
    (id : BankId) :
    synth.voiceReferences id =
      synth.pool.voices.countP fun voice =>
        !voice.isFree && voice.bankId? = some id := by
  apply List.countP_congr
  intro voice member
  have before := wellFormed voice member
  by_cases free : voice.isFree
  · simp [VoicePool.holdsReference, before.source?_of_free free, free]
  · obtain ⟨source, held⟩ := before.exists_source free
    simp [VoicePool.holdsReference, before.named, held, free]

end Synth

/-! ## Calls that drain -/

/-- Whether a call drops the parked references before it returns. -/
def Action.drains
    (synth : Synth) :
    Action → Bool
  | .control loader command => (command.mutation? loader synth).isSome
  | .render _ => false
  | .renderSamples _ => true

namespace VoicePool

variable [Transcendental]

/-- What voices hold, they have held before, or a note has given it to them. -/
theorem held_of_poolChange
    {banks : List BankReference}
    {cause : Cause}
    {pool after : VoicePool}
    (change : PoolChange banks pool cause after)
    {reference : BankReference}
    (held : reference ∈ heldBy after.voices) :
    reference ∈ heldBy pool.voices ∨
      cause = .noteOn ∧ reference ∈ banks := by
  cases change with
  | unchanged =>
      exact .inl held
  | @layers note source zones loaded =>
      obtain ⟨last, member, holding⟩ := List.mem_filterMap.mp held
      obtain ⟨slot, inside, isLast⟩ := List.getElem_of_mem member
      have insideBefore : slot < pool.voices.length := by
        rw [← length_startLayers note source zones pool]
        exact inside
      obtain ⟨other, present, struck⟩ :=
        startLayers_struck note source zones pool
          (List.getElem?_eq_getElem insideBefore)
      have same : other = last := by
        rw [List.getElem?_eq_getElem inside, isLast] at present
        exact (Option.some.inj present).symm
      subst other
      cases struck with
      | kept =>
          exact .inl
            (List.mem_filterMap.mpr ⟨_, List.getElem_mem insideBefore, holding⟩)
      | started cause attacking own fromSource wellFormed =>
          rw [fromSource] at holding
          cases holding
          exact .inr ⟨rfl, loaded⟩
  | released condition =>
      rw [heldBy_changeWhere Voice.source?_release] at held
      exact .inl held
  | cut condition seconds =>
      rw [heldBy_changeWhere (Voice.source?_forceRelease seconds)] at held
      exact .inl held

end VoicePool

namespace Synth

variable [Transcendental] {configuration : SynthConfiguration}

/-- Every session leaves room in the queue. -/
theorem run_roomy
    (configuration : SynthConfiguration)
    (actions : List Action) :
    ((Synth.new configuration).run actions).pool.Roomy configuration 0 := by
  obtain ⟨steps, accepted⟩ :=
    SharedEngine.exists_run?_session actions (Synth.new configuration)
  exact SharedEngine.run?_roomy accepted

theorem parked_of_drains
    {action : Action}
    {synth : Synth}
    (drains : action.drains synth) :
    (synth.act action).pool.retired.parked = [] := by
  cases action with
  | control loader command =>
      obtain ⟨mutation, carriedOut⟩ := Option.isSome_iff_exists.mp drains
      rw [act, perform_synth, carriedOut]
      rfl
  | render frames =>
      cases drains
  | renderSamples frames =>
      rfl

/-- No voice comes to hold a bank that is not in the table. -/
theorem held_of_act
    {action : Action}
    {synth : Synth}
    (roomy : synth.pool.Roomy configuration 0)
    {reference : BankReference}
    (held : reference ∈ VoicePool.heldBy (synth.act action).pool.voices) :
    reference ∈ VoicePool.heldBy synth.pool.voices ∨
      reference ∈ (synth.act action).banks.entries := by
  have rendered
      {frames : Nat}
      (member :
        reference ∈ VoicePool.heldBy (synth.render frames).2.pool.voices) :
      reference ∈ VoicePool.heldBy synth.pool.voices := by
    obtain ⟨moved, -, perm⟩ :=
      renderBlocks_moves roomy (Nat.zero_le _) (blockSizes frames)
    exact perm.mem_iff.mpr (List.mem_append_right _ member)
  cases action with
  | control loader command =>
      rw [act, perform_synth] at held ⊢
      cases carriedOut : command.mutation? loader synth with
      | none =>
          rw [carriedOut] at held
          exact .inl held
      | some mutation =>
          rw [carriedOut] at held
          rcases VoicePool.held_of_poolChange (mutation.poolChange synth)
              held with old | ⟨isNote, loaded⟩
          · exact .inl old
          · obtain ⟨channel, key, velocity, isStart⟩ :=
              Mutation.cause_eq_noteOn isNote
            have leavesTable : mutation.leavesTable := by
              rw [isStart]
              rfl
            refine .inr ?_
            rw [concluded_some, reclaimed_eq]
            rw [Mutation.banks_of_leavesTable leavesTable]
            exact loaded
  | render frames =>
      exact .inl (rendered held)
  | renderSamples frames =>
      exact .inl (rendered held)

end Synth

/--
At every point of every interleaving, the references to a bank that were made
are those that were dropped, one for its place in the table, one for each voice
that was started from it and is not free, and those that are parked; all that go
by one handle are to one bank; and a render call moves references from voices to
the queue, and does nothing else to them.  In every session, a call that drains
leaves the queue empty.  So it leaves no reference to a bank that is not loaded
and that no voice reads.
-/
theorem references_are_conserved
    [Transcendental]
    (configuration : SynthConfiguration) :
    (∀ (steps : List LockStep) (engine : SharedEngine),
      SharedEngine.run? steps (SharedEngine.new configuration) = some engine →
      let synth := engine.synth
      let made := SharedEngine.made steps (SharedEngine.new configuration)
      let dropped :=
        SharedEngine.dropped steps (SharedEngine.new configuration)
      (∀ id,
        made.countP (·.id = id) =
          dropped.countP (·.id = id) +
            ((if id ∈ synth.banks.ids then 1 else 0) +
              (synth.pool.voices.countP fun voice =>
                !voice.isFree && voice.bankId? = some id) +
              synth.pool.retired.count id)) ∧
        (∀ first ∈ synth.holders,
          ∀ second ∈ synth.holders,
            first.id = second.id →
            first = second) ∧
        ∀ frames,
          let rendered := (synth.render frames).2
          rendered.banks = synth.banks ∧
            ∃ moved,
              rendered.pool.retired =
                  { synth.pool.retired with
                    parked := synth.pool.retired.parked ++ moved } ∧
                (VoicePool.heldBy synth.pool.voices).Perm
                  (moved ++ VoicePool.heldBy rendered.pool.voices)) ∧
      ∀ (actions : List Action) (action : Action),
        let before := (Synth.new configuration).run actions
        let after := before.act action
        action.drains before →
        after.pool.retired.parked = [] ∧
          ∀ id,
            id ∉ after.banks.ids →
            before.voiceReferences id = 0 →
            after.references id = 0 := by
  refine ⟨?_, ?_⟩
  · intro steps engine accepted synth made dropped
    have roomy : synth.pool.Roomy configuration _ :=
      SharedEngine.run?_roomy accepted
    have bound : synth.Bound :=
      Synth.Bound.invariant.run? accepted (Synth.Bound.new configuration)
    have small := SharedEngine.slack_le configuration engine
    have ledger : made.Perm (dropped ++ synth.holders) := by
      have perm :
          (made ++ (Synth.new configuration).holders).Perm
            (dropped ++ synth.holders) :=
        SharedEngine.run?_holders accepted (Synth.roomy_new configuration)
      rwa [Synth.holders_new, List.append_nil] at perm
    refine ⟨?_, ?_, ?_⟩
    · intro id
      rw [ledger.countP_eq, List.countP_append, ← Synth.references_eq,
        Synth.references, bound.table.count_eq,
        Synth.voiceReferences_eq roomy.wellFormed]
    · intro first firstMember second secondMember same
      exact (SharedEngine.run?_coherent accepted).single firstMember
        secondMember same
    · intro frames rendered
      exact ⟨Synth.banks_renderBlocks (blockSizes frames) synth,
        Synth.renderBlocks_moves roomy small (blockSizes frames)⟩
  · intro actions action before after drains
    have drained := Synth.parked_of_drains drains
    refine ⟨drained, ?_⟩
    intro id unloaded unread
    apply Synth.references_of_drained drained unloaded
    intro reference held same
    rcases Synth.held_of_act (Synth.run_roomy configuration actions) held with
      old | loaded
    · obtain ⟨voice, member, holding⟩ := List.mem_filterMap.mp old
      have notHeld := List.countP_eq_zero.mp unread voice member
      simp [VoicePool.holdsReference, holding, same] at notHeld
    · exact unloaded (List.mem_map.mpr ⟨reference, loaded, same⟩)

end Polyphony.Engine
