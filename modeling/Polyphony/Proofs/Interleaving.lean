import Polyphony.Proofs.Session

namespace Polyphony.Engine

/-!
# Interleavings of control and rendering

A control thread and a rendering thread share one engine behind a lock.  Each
mutation and each render call holds the lock from its start to its end.  The
dropping of parked references that follows a mutation holds no lock, so render
calls may come before it, between any two of its drops, and after it.

A session is an interleaving in which nothing comes between.  An invariant that
mutations, drops and blocks of sound keep holds therefore in both.
-/

open Number (Transcendental)

namespace Synth

/-- The synthesizer with other references parked. -/
def withParked
    (parked : List BankReference)
    (synth : Synth) :
    Synth :=
  { synth with
    pool :=
      { synth.pool with
        retired := { synth.pool.retired with parked := parked } } }

end Synth

/--
An engine that two threads share.  While the control thread is `draining`, it
has not yet seen the queue empty after its last mutation.
-/
structure SharedEngine where
  synth : Synth
  draining : Bool

/-- What one of the threads does at a time. -/
inductive LockStep where
  /-- The control thread mutates the engine, and has to drain next. -/
  | mutate (mutation : Mutation)
  /-- The control thread drains after a render call of its own. -/
  | beginDrain
  /-- The control thread drops the oldest reference, or finds that none is left. -/
  | drop
  /-- Either thread renders. -/
  | render (frames : Nat)

namespace SharedEngine

/-- An engine that was just made. -/
def new (configuration : SynthConfiguration) : SharedEngine where
  synth := .new configuration
  draining := false

/-- The engine after a step, if the control thread is where the step needs it. -/
def step?
    [Transcendental]
    (step : LockStep)
    (engine : SharedEngine) :
    Option SharedEngine :=
  match step with
  | .mutate mutation =>
      if engine.draining then
        none
      else
        some ⟨mutation.apply engine.synth, true⟩
  | .beginDrain =>
      if engine.draining then none else some ⟨engine.synth, true⟩
  | .drop =>
      if engine.draining then
        match engine.synth.pool.retired.pop? with
        | some (_, queue) => some ⟨engine.synth.withParked queue.parked, true⟩
        | none => some ⟨engine.synth, false⟩
      else
        none
  | .render frames => some ⟨(engine.synth.render frames).2, engine.draining⟩

/-- The engine after some steps, if each of them can be taken. -/
def run?
    [Transcendental] :
    List LockStep → SharedEngine → Option SharedEngine
  | [], engine => some engine
  | step :: rest, engine => (engine.step? step).bind (run? rest)

variable [Transcendental]

/-- Steps in two parts are taken one part after the other. -/
theorem run?_append
    (first second : List LockStep)
    (engine : SharedEngine) :
    run? (first ++ second) engine =
      (run? first engine).bind (run? second) := by
  induction first generalizing engine with
  | nil =>
      rfl
  | cons step rest inductionHypothesis =>
      cases taken : engine.step? step with
      | none => simp [run?, taken]
      | some next => simp [run?, taken, inductionHypothesis]

/-- What every single step keeps holds after any number of them. -/
theorem run?_preserves
    (holds : SharedEngine → Prop)
    (keeps :
      ∀ {step before after},
        before.step? step = some after →
        holds before →
        holds after)
    {steps : List LockStep}
    {before after : SharedEngine}
    (accepted : run? steps before = some after)
    (initially : holds before) :
    holds after := by
  induction steps generalizing before with
  | nil =>
      simp only [run?, Option.some.injEq] at accepted
      subst after
      exact initially
  | cons step rest inductionHypothesis =>
      simp only [run?, Option.bind_eq_some_iff] at accepted
      obtain ⟨middle, taken, accepted⟩ := accepted
      exact inductionHypothesis accepted (keeps taken initially)

/-! ## Sessions are interleavings -/

/-- Dropping one reference after the other empties the queue. -/
theorem exists_run?_reclaimed
    (synth : Synth) :
    ∃ drops, run? drops ⟨synth, true⟩ = some ⟨synth.reclaimed, false⟩ := by
  generalize parkedShape : synth.pool.retired.parked = parked
  induction parked generalizing synth with
  | nil =>
      have nothingParked : synth.reclaimed = synth := by
        simp [Synth.reclaimed_eq, ← parkedShape]
      refine ⟨[.drop], ?_⟩
      simp [run?, step?, ReclamationQueue.pop?, parkedShape, nothingParked]
  | cons oldest rest inductionHypothesis =>
      obtain ⟨drops, drained⟩ :=
        inductionHypothesis (synth.withParked rest) rfl
      have sameEnd : (synth.withParked rest).reclaimed = synth.reclaimed := rfl
      rw [sameEnd] at drained
      refine ⟨.drop :: drops, ?_⟩
      simpa [run?, step?, ReclamationQueue.pop?, parkedShape] using drained

/-- A public call is an interleaving that starts and ends outside a drain. -/
theorem exists_run?_act
    (action : Action)
    (synth : Synth) :
    ∃ steps, run? steps ⟨synth, false⟩ = some ⟨synth.act action, false⟩ := by
  cases action with
  | control loader command =>
      cases mutation? : command.mutation? loader synth with
      | none =>
          refine ⟨[], ?_⟩
          simp [run?, Synth.act, Synth.perform_synth, mutation?]
      | some mutation =>
          obtain ⟨drops, drained⟩ :=
            exists_run?_reclaimed (mutation.apply synth)
          refine ⟨.mutate mutation :: drops, ?_⟩
          simpa [run?, step?, Synth.act, Synth.perform_synth, mutation?]
            using drained
  | render frames =>
      refine ⟨[.render frames], ?_⟩
      simp [run?, step?, Synth.act]
  | renderSamples frames =>
      obtain ⟨drops, drained⟩ :=
        exists_run?_reclaimed (synth.render frames).2
      refine ⟨.render frames :: .beginDrain :: drops, ?_⟩
      simpa [run?, step?, Synth.act, Synth.renderSamples_synth] using drained

/-- A session is an interleaving that starts and ends outside a drain. -/
theorem exists_run?_session
    (actions : List Action)
    (synth : Synth) :
    ∃ steps, run? steps ⟨synth, false⟩ = some ⟨synth.run actions, false⟩ := by
  induction actions generalizing synth with
  | nil =>
      exact ⟨[], rfl⟩
  | cons action rest inductionHypothesis =>
      obtain ⟨first, firstRun⟩ := exists_run?_act action synth
      obtain ⟨later, laterRun⟩ := inductionHypothesis (synth.act action)
      refine ⟨first ++ later, ?_⟩
      rw [run?_append, firstRun]
      exact laterRun

end SharedEngine

namespace Synth

variable [Transcendental]

/-- A property that mutations, drops and blocks of sound keep. -/
structure Invariant (holds : Synth → Prop) : Prop where
  mutation :
    ∀ (mutation : Mutation) {synth : Synth},
      holds synth →
      holds (mutation.apply synth)
  drops :
    ∀ {parked : List BankReference} {synth : Synth},
      parked <:+ synth.pool.retired.parked →
      holds synth →
      holds (synth.withParked parked)
  block :
    ∀ (frames : Nat) {synth : Synth},
      holds synth →
      holds (synth.renderBlock frames).2

namespace Invariant

variable {holds : Synth → Prop}

/-- What one block keeps, a render call keeps. -/
theorem blocks
    (invariant : Invariant holds)
    (sizes : List Nat)
    {synth : Synth}
    (initially : holds synth) :
    holds (synth.renderBlocks sizes).2 := by
  induction sizes generalizing synth with
  | nil =>
      exact initially
  | cons frames rest inductionHypothesis =>
      exact inductionHypothesis (invariant.block frames initially)

/-- An invariant is kept by every step of either thread. -/
theorem step?
    (invariant : Invariant holds)
    {step : LockStep}
    {before after : SharedEngine}
    (taken : before.step? step = some after)
    (initially : holds before.synth) :
    holds after.synth := by
  cases step with
  | mutate mutation =>
      simp only [SharedEngine.step?] at taken
      split at taken
      · cases taken
      · cases taken
        exact invariant.mutation mutation initially
  | beginDrain =>
      simp only [SharedEngine.step?] at taken
      split at taken
      · cases taken
      · cases taken
        exact initially
  | drop =>
      simp only [SharedEngine.step?, ReclamationQueue.pop?] at taken
      split at taken
      · cases parkedShape : before.synth.pool.retired.parked with
        | nil =>
            simp only [parkedShape, Option.some.injEq] at taken
            subst after
            exact initially
        | cons oldest rest =>
            simp only [parkedShape, Option.some.injEq] at taken
            subst after
            have shorter : rest <:+ before.synth.pool.retired.parked := by
              rw [parkedShape]
              exact List.suffix_cons oldest rest
            exact invariant.drops shorter initially
      · cases taken
  | render frames =>
      cases taken
      exact invariant.blocks (blockSizes frames) initially

/-- An invariant holds after every interleaving. -/
theorem run?
    (invariant : Invariant holds)
    {steps : List LockStep}
    {before after : SharedEngine}
    (accepted : SharedEngine.run? steps before = some after)
    (initially : holds before.synth) :
    holds after.synth :=
  SharedEngine.run?_preserves
    (fun engine => holds engine.synth)
    (fun taken held => invariant.step? taken held)
    accepted
    initially

/-- An invariant holds after every session. -/
theorem run
    (invariant : Invariant holds)
    (actions : List Action)
    {synth : Synth}
    (initially : holds synth) :
    holds (synth.run actions) := by
  obtain ⟨steps, accepted⟩ :=
    SharedEngine.exists_run?_session actions synth
  exact invariant.run? accepted initially

end Invariant

end Synth

end Polyphony.Engine
