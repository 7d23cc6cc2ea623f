import Polyphony.Proofs.BankTable
import Polyphony.Proofs.QueueRoom

namespace Polyphony.Engine

/-!
# The ledger of references

A reference is made when a bank is published, and for every voice that a note
starts.  It is dropped when its bank is withdrawn, if the table had it, and
otherwise when it is taken out of the queue.  The ledger lists both for every
step, and what was made is at all times what was dropped and what is held.
-/

open Number (Transcendental)
open Sound (Interpolation)

/-! ## What a step makes and drops -/

namespace Mutation

/-- The reference that the table gets from a mutation. -/
def published
    (synth : Synth) :
    Mutation → List BankReference
  | .publish bank _ =>
      match synth.banks.insert bank with
      | .ok (id, _) => [⟨id, bank⟩]
      | .error _ => []
  | _ => []

/-- The references that voices get from a mutation, one for each layer. -/
def started
    [Transcendental]
    (synth : Synth) :
    Mutation → List BankReference
  | .startNote channel key velocity =>
      match synth.notePreset? channel with
      | some (source, preset) =>
          let report := (synth.startNote channel key velocity).1
          List.replicate
            ((preset.layers key velocity).length - report.droppedLayers) source
      | none => []
  | _ => []

/-- The reference that the table loses by a mutation. -/
def withdrawn
    (synth : Synth) :
    Mutation → List BankReference
  | .withdraw id _ =>
      match synth.banks.remove? id with
      | some (entry, _) => [entry]
      | none => []
  | _ => []

end Mutation

namespace LockStep

/-- The references that a step makes. -/
def made
    [Transcendental]
    (engine : SharedEngine) :
    LockStep → List BankReference
  | .mutate mutation =>
      mutation.published engine.synth ++ mutation.started engine.synth
  | _ => []

/-- The references that a step drops. -/
def dropped
    (engine : SharedEngine) :
    LockStep → List BankReference
  | .mutate mutation => mutation.withdrawn engine.synth
  | .drop => engine.synth.pool.retired.parked.head?.toList
  | _ => []

end LockStep

namespace SharedEngine

/-- The references that some steps make, one step after the other. -/
def made
    [Transcendental] :
    List LockStep → SharedEngine → List BankReference
  | [], _ => []
  | step :: rest, engine =>
      match engine.step? step with
      | some next => step.made engine ++ made rest next
      | none => []

/-- The references that some steps drop, one step after the other. -/
def dropped
    [Transcendental] :
    List LockStep → SharedEngine → List BankReference
  | [], _ => []
  | step :: rest, engine =>
      match engine.step? step with
      | some next => step.dropped engine ++ dropped rest next
      | none => []

end SharedEngine

namespace Synth

/-- All references that a synthesizer holds: in table, voices and queue. -/
def holders (synth : Synth) : List BankReference :=
  synth.banks.entries ++ synth.pool.references

end Synth

/-! ## A mutation keeps the ledger -/

namespace Mutation

theorem published_of_leavesTable
    {mutation : Mutation}
    {synth : Synth}
    (leavesTable : mutation.leavesTable) :
    mutation.published synth = [] := by
  cases mutation with
  | publish bank updatePresets => cases leavesTable
  | _ => rfl

theorem withdrawn_of_leavesTable
    {mutation : Mutation}
    {synth : Synth}
    (leavesTable : mutation.leavesTable) :
    mutation.withdrawn synth = [] := by
  cases mutation with
  | withdraw id updatePresets => cases leavesTable
  | _ => rfl

variable [Transcendental]

/-- The table changes by publishing and by withdrawing, and by nothing else. -/
theorem banks_of_leavesTable
    {mutation : Mutation}
    {synth : Synth}
    (leavesTable : mutation.leavesTable) :
    (mutation.apply synth).banks = synth.banks := by
  have effect := mutation.effect synth
  generalize mutation.apply synth = after at effect ⊢
  cases effect with
  | published updatePresets inserted => cases leavesTable
  | withdrawn updatePresets removed => cases leavesTable
  | _ => rfl

/-- The table holds what was published and not withdrawn. -/
theorem entries_apply
    (mutation : Mutation)
    (synth : Synth) :
    (mutation.published synth ++ synth.banks.entries).Perm
      (mutation.withdrawn synth ++ (mutation.apply synth).banks.entries) := by
  have effect := mutation.effect synth
  generalize mutation.apply synth = after at effect ⊢
  cases effect with
  | published updatePresets inserted =>
      obtain ⟨sameId, afterShape⟩ := BankTable.insert_eq_ok inserted
      simp only [published, withdrawn, inserted, afterShape, sameId]
      exact List.perm_append_comm
  | refused updatePresets refusal =>
      simp [published, withdrawn, refusal]
  | withdrawn updatePresets removed =>
      simpa [published, withdrawn, removed]
        using BankTable.perm_of_remove? removed
  | unknown updatePresets missing =>
      simp [published, withdrawn, missing]
  | selected leavesTable =>
      rw [published_of_leavesTable leavesTable,
        withdrawn_of_leavesTable leavesTable]
      exact .refl _
  | searched bankNumber program leavesTable =>
      rw [published_of_leavesTable leavesTable,
        withdrawn_of_leavesTable leavesTable]
      exact .refl _
  | adjusted leavesTable =>
      rw [published_of_leavesTable leavesTable,
        withdrawn_of_leavesTable leavesTable]
      exact .refl _
  | noteStarted key velocity sounding => exact .refl _
  | silent key velocity sounding => exact .refl _
  | released condition leavesTable =>
      rw [published_of_leavesTable leavesTable,
        withdrawn_of_leavesTable leavesTable]
      exact .refl _
  | cut condition seconds leavesTable =>
      rw [published_of_leavesTable leavesTable,
        withdrawn_of_leavesTable leavesTable]
      exact .refl _

end Mutation

namespace VoicePool

variable [Transcendental]

/-- Only a note changes the references of a pool. -/
theorem references_of_poolChange
    {banks : List BankReference}
    {cause : Cause}
    {pool after : VoicePool}
    (change : PoolChange banks pool cause after)
    (notNote : cause ≠ .noteOn) :
    after.references = pool.references := by
  cases change with
  | unchanged => rfl
  | layers note zones loaded => exact absurd rfl notNote
  | released condition =>
      rw [references, heldBy_changeWhere Voice.source?_release]
      rfl
  | cut condition seconds =>
      rw [references,
        heldBy_changeWhere (Voice.source?_forceRelease seconds)]
      rfl

end VoicePool

namespace Mutation

/-- A note is started by nothing but the mutation for it. -/
theorem cause_eq_noteOn
    {mutation : Mutation}
    (isNote : mutation.cause = .noteOn) :
    ∃ channel key velocity, mutation = .startNote channel key velocity := by
  cases mutation with
  | startNote channel key velocity => exact ⟨channel, key, velocity, rfl⟩
  | applyController channel controller value =>
      simp only [cause] at isNote
      split at isNote <;> cases isNote
  | _ => cases isNote

variable [Transcendental] {configuration : SynthConfiguration}

/-- Voices and queue hold what they have held and what a note has started. -/
theorem references_apply
    (mutation : Mutation)
    {synth : Synth}
    (roomy : synth.pool.Roomy configuration 0) :
    (mutation.started synth ++ synth.pool.references).Perm
      (mutation.apply synth).pool.references := by
  by_cases isNote : mutation.cause = .noteOn
  · obtain ⟨channel, key, velocity, isStart⟩ := cause_eq_noteOn isNote
    subst mutation
    simp only [started, apply]
    cases sounding : synth.notePreset? channel with
    | none =>
        simp [Synth.startNote_eq, sounding]
    | some bound =>
        obtain ⟨source, preset⟩ := bound
        obtain ⟨-, -, perm⟩ :=
          (roomy.mono (Nat.zero_le _)).startLayers
            ⟨channel, key, velocity, synth.nextSerial⟩ source
            (preset.layers key velocity)
        simp only [Synth.startNote_eq, sounding]
        exact perm.symm
  · have same :=
      VoicePool.references_of_poolChange (mutation.poolChange synth) isNote
    rw [same]
    cases mutation with
    | startNote channel key velocity => exact absurd rfl isNote
    | _ => exact .refl _

end Mutation

namespace Synth

variable [Transcendental] {configuration : SynthConfiguration}

/-- A mutation drops what it withdraws, and nothing else that it does not hold. -/
theorem holders_apply
    (mutation : Mutation)
    {synth : Synth}
    (roomy : synth.pool.Roomy configuration 0) :
    ((mutation.published synth ++ mutation.started synth) ++
        synth.holders).Perm
      (mutation.withdrawn synth ++ (mutation.apply synth).holders) := by
  have table := mutation.entries_apply synth
  have pool := mutation.references_apply roomy
  unfold holders
  calc
    ((mutation.published synth ++ mutation.started synth) ++
        (synth.banks.entries ++ synth.pool.references)).Perm
        ((mutation.published synth ++ synth.banks.entries) ++
          (mutation.started synth ++ synth.pool.references)) := by
      simp only [List.append_assoc]
      exact (List.perm_append_comm_assoc ..).append_left _
    List.Perm _
        ((mutation.withdrawn synth ++ (mutation.apply synth).banks.entries) ++
          (mutation.apply synth).pool.references) :=
      table.append pool
    _ = mutation.withdrawn synth ++
          ((mutation.apply synth).banks.entries ++
            (mutation.apply synth).pool.references) :=
      List.append_assoc ..

/-- A render call moves references from voices to the queue. -/
theorem renderBlocks_moves
    {slack : Nat}
    {synth : Synth}
    (roomy : synth.pool.Roomy configuration slack)
    (small : slack ≤ configuration.polyphony)
    (sizes : List Nat) :
    ∃ moved,
      (synth.renderBlocks sizes).2.pool.retired =
          { synth.pool.retired with
            parked := synth.pool.retired.parked ++ moved } ∧
        (VoicePool.heldBy synth.pool.voices).Perm
          (moved ++
            VoicePool.heldBy (synth.renderBlocks sizes).2.pool.voices) := by
  induction sizes generalizing synth with
  | nil =>
      exact ⟨[], by simp [renderBlocks], by simp [renderBlocks]⟩
  | cons frames rest inductionHypothesis =>
      have room :
          synth.pool.references.length ≤ synth.pool.retired.capacity := by
        have bounded := roomy.bounded
        have capacity := roomy.capacity_ge
        omega
      obtain ⟨first, firstQueued, firstPerm⟩ :=
        VoicePool.render_moves roomy.wellFormed room frames synth.channels
          synth.configuration.interpolation
      have next :
          (synth.renderBlock frames).2.pool.Roomy configuration slack :=
        roomy.render small frames synth.channels
          synth.configuration.interpolation
      obtain ⟨later, laterQueued, laterPerm⟩ := inductionHypothesis next
      refine ⟨first ++ later, ?_, ?_⟩
      · simp only [renderBlocks]
        rw [laterQueued, renderBlock_eq]
        simp only [firstQueued, List.append_assoc]
      · rw [List.append_assoc]
        exact firstPerm.trans (laterPerm.append_left first)

/-- Rendering does not touch the table. -/
theorem banks_renderBlocks
    (sizes : List Nat)
    (synth : Synth) :
    (synth.renderBlocks sizes).2.banks = synth.banks := by
  induction sizes generalizing synth with
  | nil => rfl
  | cons frames rest inductionHypothesis =>
      exact inductionHypothesis (synth.renderBlock frames).2

/-- No reference comes or goes while sound is rendered. -/
theorem holders_renderBlocks
    {slack : Nat}
    {synth : Synth}
    (roomy : synth.pool.Roomy configuration slack)
    (small : slack ≤ configuration.polyphony)
    (sizes : List Nat) :
    synth.holders.Perm (synth.renderBlocks sizes).2.holders := by
  obtain ⟨moved, queued, perm⟩ := renderBlocks_moves roomy small sizes
  unfold holders VoicePool.references
  rw [banks_renderBlocks, queued]
  refine List.Perm.append_left _ ?_
  calc
    (VoicePool.heldBy synth.pool.voices ++ synth.pool.retired.parked).Perm
        ((moved ++
            VoicePool.heldBy (synth.renderBlocks sizes).2.pool.voices) ++
          synth.pool.retired.parked) :=
      perm.append_right _
    List.Perm _
        ((VoicePool.heldBy (synth.renderBlocks sizes).2.pool.voices ++
            synth.pool.retired.parked) ++
          moved) := by
      rw [List.append_assoc]
      exact List.perm_append_comm
    _ = VoicePool.heldBy (synth.renderBlocks sizes).2.pool.voices ++
          (synth.pool.retired.parked ++ moved) :=
      List.append_assoc ..

end Synth

/-! ## Every step keeps the ledger -/

namespace SharedEngine

variable [Transcendental] {configuration : SynthConfiguration}

theorem step?_holders
    {step : LockStep}
    {before after : SharedEngine}
    (taken : before.step? step = some after)
    (roomy :
      before.synth.pool.Roomy configuration (before.slack configuration)) :
    (step.made before ++ before.synth.holders).Perm
      (step.dropped before ++ after.synth.holders) := by
  cases step with
  | mutate mutation =>
      simp only [step?] at taken
      split at taken
      · cases taken
      · rename_i notDraining
        cases taken
        have drained : before.synth.pool.Roomy configuration 0 := by
          simpa [slack, notDraining] using roomy
        exact Synth.holders_apply mutation drained
  | beginDrain =>
      simp only [step?] at taken
      split at taken
      · cases taken
      · cases taken
        exact .refl _
  | drop =>
      simp only [step?, ReclamationQueue.pop?] at taken
      split at taken
      · cases parkedShape : before.synth.pool.retired.parked with
        | nil =>
            simp only [parkedShape, Option.some.injEq] at taken
            subst after
            simp [LockStep.made, LockStep.dropped, parkedShape]
        | cons oldest rest =>
            simp only [parkedShape, Option.some.injEq] at taken
            subst after
            simp only [LockStep.made, LockStep.dropped, parkedShape,
              Synth.holders, VoicePool.references, Synth.withParked,
              ← List.append_assoc]
            exact List.perm_middle
      · cases taken
  | render frames =>
      cases taken
      exact Synth.holders_renderBlocks roomy (slack_le configuration before)
        (blockSizes frames)

/-- What is made is at all times what is dropped and what is held. -/
theorem run?_holders
    {steps : List LockStep}
    {before after : SharedEngine}
    (accepted : run? steps before = some after)
    (roomy :
      before.synth.pool.Roomy configuration (before.slack configuration)) :
    (made steps before ++ before.synth.holders).Perm
      (dropped steps before ++ after.synth.holders) := by
  induction steps generalizing before with
  | nil =>
      simp only [run?, Option.some.injEq] at accepted
      subst after
      exact .refl _
  | cons step rest inductionHypothesis =>
      simp only [run?, Option.bind_eq_some_iff] at accepted
      obtain ⟨middle, taken, accepted⟩ := accepted
      have first := step?_holders taken roomy
      have others := inductionHypothesis accepted (step?_roomy taken roomy)
      simp only [made, dropped, taken]
      calc
        ((step.made before ++ made rest middle) ++
            before.synth.holders).Perm
            (made rest middle ++ (step.made before ++ before.synth.holders)) := by
          rw [List.append_assoc]
          exact List.perm_append_comm_assoc ..
        List.Perm _
            (made rest middle ++
              (step.dropped before ++ middle.synth.holders)) :=
          first.append_left _
        List.Perm _
            (step.dropped before ++
              (made rest middle ++ middle.synth.holders)) :=
          List.perm_append_comm_assoc ..
        List.Perm _
            ((step.dropped before ++ dropped rest middle) ++
              after.synth.holders) := by
          rw [List.append_assoc]
          exact others.append_left _

end SharedEngine

end Polyphony.Engine
