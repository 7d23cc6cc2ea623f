import Polyphony.Proofs.References
import Polyphony.Proofs.VoiceStates

namespace Polyphony.Engine

/-!
# Room in the reclamation queue

Between a drain and the next mutation an engine has no more references in voices
and queue than there are voices.  A note adds one for each voice that it sounds,
and it cannot sound more voices than there are.  So twice as many references as
voices is the most there can be before the next drain, whatever the rendering
thread does in between, and for that many the queue has room.
-/

open Instrument (Bank Zone)
open Number (Transcendental)
open Sound (Interpolation)

namespace VoicePool

/--
A pool with room in its queue.  Its references are no more than its voices and
some slack, and none was ever refused.
-/
structure Roomy
    (configuration : SynthConfiguration)
    (slack : Nat)
    (pool : VoicePool) : Prop where
  wellFormed : pool.WellFormed
  voiceCount : pool.voices.length = configuration.polyphony
  capacity :
    pool.retired.capacity = max (Synth.queueCapacity configuration) 1
  bounded : pool.references.length ≤ configuration.polyphony + slack
  noneRefused : pool.retired.refused = 0

namespace Roomy

variable {configuration : SynthConfiguration}

theorem capacity_ge
    {slack : Nat}
    {pool : VoicePool}
    (roomy : pool.Roomy configuration slack) :
    2 * configuration.polyphony ≤ pool.retired.capacity := by
  rw [roomy.capacity, Synth.queueCapacity]
  omega

theorem mono
    {less more : Nat}
    {pool : VoicePool}
    (roomy : pool.Roomy configuration less)
    (wider : less ≤ more) :
    pool.Roomy configuration more :=
  { roomy with
    bounded := Nat.le_trans roomy.bounded (Nat.add_le_add_left wider _) }

/-- No more references are parked than there are references. -/
theorem parked_le
    {slack : Nat}
    {pool : VoicePool}
    (roomy : pool.Roomy configuration slack) :
    pool.retired.parked.length ≤ configuration.polyphony + slack := by
  have bounded := roomy.bounded
  rw [references, List.length_append] at bounded
  omega

/-- Every voice that sounds a note is one of all voices. -/
theorem count_sounds_le
    {slack : Nat}
    {pool : VoicePool}
    (roomy : pool.Roomy configuration slack)
    (serial : Nat) :
    pool.count (sounds serial) ≤ configuration.polyphony := by
  rw [← roomy.voiceCount]
  exact List.countP_le_length

/-- What keeps the slots and the queue's history need only count references. -/
theorem turned
    {cause : Cause}
    {less more : Nat}
    {pool after : VoicePool}
    {parked : List BankReference}
    (roomy : pool.Roomy configuration less)
    (turns : Turns cause pool after)
    (queue : after.retired = { pool.retired with parked := parked })
    (bounded : after.references.length ≤ configuration.polyphony + more) :
    after.Roomy configuration more where
  wellFormed := turns.wellFormed
  voiceCount := turns.sameSlots.trans roomy.voiceCount
  capacity := by
    rw [queue]
    exact roomy.capacity
  bounded := bounded
  noneRefused := by
    rw [queue]
    exact roomy.noneRefused

variable [Transcendental]

/-- A block of sound keeps the number of references. -/
theorem render
    {slack : Nat}
    {pool : VoicePool}
    (roomy : pool.Roomy configuration slack)
    (small : slack ≤ configuration.polyphony)
    (frames : Nat)
    (channels : List Channel)
    (method : Interpolation) :
    (pool.render frames channels method).2.Roomy configuration slack := by
  have bounded := roomy.bounded
  have capacity := roomy.capacity_ge
  obtain ⟨moved, queued, perm⟩ :=
    render_moves roomy.wellFormed (by omega) frames channels method
  have sameLength := perm.length_eq
  apply roomy.turned (render_turns roomy.wellFormed frames channels method)
    queued
  rw [references, List.length_append] at bounded ⊢
  rw [queued]
  simp only [List.length_append] at sameLength ⊢
  omega

/--
A layer takes the slot of a voice that does not sound its note, and parks the
reference that this voice has held.
-/
theorem layer_eq
    {note : Note}
    {source : BankReference}
    {zone : Zone}
    {pool after : VoicePool}
    {stolen? : Option StolenVoice}
    (roomy : pool.Roomy configuration (pool.count (sounds note.serial)))
    (layer : pool.LayerStart note source zone stolen? after) :
    ∃ slot old fresh,
      pool.voices[slot]? = some old ∧
        ¬ sounds note.serial old ∧
        sounds note.serial fresh ∧
        fresh.source? = some source ∧
        after =
          { voices := pool.voices.set slot fresh
            retired :=
              { pool.retired with
                parked :=
                  pool.retired.parked ++ old.source?.toList } } := by
  have startedSounds (voice : Voice) :
      sounds note.serial (voice.start note source zone) := by
    simp [sounds, Voice.start, Voice.isFree]
  cases layer with
  | @found slot old present free =>
      have nothingHeld :=
        (roomy.wellFormed old
          (List.mem_of_getElem? present)).source?_of_free free
      refine ⟨slot, old, old.start note source zone, present, ?_,
        startedSounds old, rfl, ?_⟩
      · simp [sounds, free]
      · simp [nothingHeld]
  | @stolen slot victim noneFree present other =>
      have notOwn : ¬ sounds note.serial victim := by
        simp [sounds, other]
      refine ⟨slot, victim, victim.free.2.start note source zone, present,
        notOwn, startedSounds victim.free.2, rfl, ?_⟩
      have oneMore :=
        countP_sounds_set present notOwn (startedSounds victim.free.2)
      have notAllOwn :
          pool.count (sounds note.serial) + 1 ≤ pool.voices.length := by
        rw [count, ← oneMore]
        exact Nat.le_trans List.countP_le_length (by simp)
      have room :
          pool.retired.parked.length + victim.source?.toList.length ≤
            pool.retired.capacity := by
        have allHeld := length_heldBy_of_noneFree roomy.wellFormed noneFree
        have atMostOne : victim.source?.toList.length ≤ 1 := by
          cases victim.source? <;> simp
        have bounded := roomy.bounded
        have capacity := roomy.capacity_ge
        have voiceCount := roomy.voiceCount
        rw [references, List.length_append] at bounded
        omega
      rw [ReclamationQueue.retire_eq room]

/-- A layer makes one reference, and sounds one voice more of its note. -/
theorem layer
    {note : Note}
    {source : BankReference}
    {zone : Zone}
    {pool after : VoicePool}
    {stolen? : Option StolenVoice}
    (roomy : pool.Roomy configuration (pool.count (sounds note.serial)))
    (layer : pool.LayerStart note source zone stolen? after) :
    after.Roomy configuration (after.count (sounds note.serial)) ∧
      after.references.Perm (source :: pool.references) := by
  have turns := layer.turns roomy.wellFormed
  obtain ⟨slot, old, fresh, present, notOwn, own, holding, afterShape⟩ :=
    roomy.layer_eq layer
  have perm : after.references.Perm (source :: pool.references) := by
    have moved := heldBy_set present fresh
    rw [holding] at moved
    rw [afterShape, references, references]
    calc
      (heldBy (pool.voices.set slot fresh) ++
          (pool.retired.parked ++ old.source?.toList)).Perm
          (old.source?.toList ++
            (heldBy (pool.voices.set slot fresh) ++ pool.retired.parked)) := by
        rw [← List.append_assoc]
        exact List.perm_append_comm
      List.Perm _
          (source :: (heldBy pool.voices ++ pool.retired.parked)) := by
        rw [← List.append_assoc]
        exact moved.append_right _
  have oneMore :
      after.count (sounds note.serial) =
        pool.count (sounds note.serial) + 1 := by
    rw [afterShape]
    exact countP_sounds_set present notOwn own
  refine ⟨roomy.turned turns (by rw [afterShape]) ?_, perm⟩
  have bounded := roomy.bounded
  rw [perm.length_eq, List.length_cons, oneMore]
  omega

/--
A note makes as many references as it starts layers.  It cannot start more of
them than there are voices.
-/
theorem startLayers
    (note : Note)
    (source : BankReference)
    (zones : List Zone)
    {pool : VoicePool}
    (roomy : pool.Roomy configuration (pool.count (sounds note.serial))) :
    let started := pool.startLayers note source zones
    started.2.Roomy configuration (started.2.count (sounds note.serial)) ∧
      started.1.droppedLayers ≤ zones.length ∧
      started.2.references.Perm
        (List.replicate (zones.length - started.1.droppedLayers) source ++
          pool.references) := by
  induction zones generalizing pool with
  | nil =>
      exact ⟨roomy, Nat.le_refl 0, .refl _⟩
  | cons zone rest inductionHypothesis =>
      cases allocated : pool.allocate? note.serial with
      | none =>
          simp only [VoicePool.startLayers, allocated, List.length_cons]
          exact ⟨roomy, Nat.le_refl _, by simp⟩
      | some result =>
          obtain ⟨allocation, ready⟩ := result
          obtain ⟨firstRoomy, firstPerm⟩ :=
            roomy.layer (layerStart allocated source zone)
          obtain ⟨lastRoomy, droppedLe, lastPerm⟩ :=
            inductionHypothesis firstRoomy
          simp only [VoicePool.startLayers, allocated]
          refine ⟨lastRoomy, Nat.le_succ_of_le droppedLe, ?_⟩
          rw [List.length_cons, Nat.succ_sub droppedLe, List.replicate_succ',
            List.append_assoc]
          exact lastPerm.trans (firstPerm.append_left _)

/-- After a drain there is room for the references of any mutation. -/
theorem poolChange
    {banks : List BankReference}
    {cause : Cause}
    {pool after : VoicePool}
    (roomy : pool.Roomy configuration 0)
    (change : PoolChange banks pool cause after) :
    after.Roomy configuration configuration.polyphony := by
  have turns := turns_of_poolChange roomy.wellFormed change
  have bounded := (roomy.mono (Nat.zero_le configuration.polyphony)).bounded
  cases change with
  | unchanged =>
      exact roomy.mono (Nat.zero_le _)
  | @layers note source zones loaded =>
      obtain ⟨started, -, -⟩ :=
        (roomy.mono (Nat.zero_le _)).startLayers note source zones
      exact started.mono (started.count_sounds_le note.serial)
  | released condition =>
      apply roomy.turned turns rfl
      rw [references, heldBy_changeWhere Voice.source?_release]
      exact bounded
  | cut condition seconds =>
      apply roomy.turned turns rfl
      rw [references,
        heldBy_changeWhere (Voice.source?_forceRelease seconds)]
      exact bounded

end Roomy

end VoicePool

namespace Synth

theorem roomy_new (configuration : SynthConfiguration) :
    (Synth.new configuration).pool.Roomy configuration 0 where
  wellFormed := wellFormed_new configuration
  voiceCount := by simp [Synth.new, VoicePool.new]
  capacity := rfl
  bounded := by
    simpa [VoicePool.references, Synth.new, VoicePool.new,
      ReclamationQueue.new] using
        VoicePool.length_heldBy_le
          (List.replicate configuration.polyphony
            (Voice.new configuration.sampleRate))
  noneRefused := rfl

variable {configuration : SynthConfiguration}

/-- Once the queue is empty, only voices have references. -/
theorem roomy_of_drained
    {slack : Nat}
    {synth : Synth}
    (roomy : synth.pool.Roomy configuration slack)
    (drained : synth.pool.retired.parked = []) :
    synth.pool.Roomy configuration 0 :=
  { roomy with
    bounded := by
      rw [VoicePool.references, drained, List.append_nil,
        ← roomy.voiceCount]
      exact VoicePool.length_heldBy_le synth.pool.voices }

variable [Transcendental]

/-- A render call keeps the number of references. -/
theorem renderBlocks_roomy
    {slack : Nat}
    {synth : Synth}
    (roomy : synth.pool.Roomy configuration slack)
    (small : slack ≤ configuration.polyphony)
    (sizes : List Nat) :
    (synth.renderBlocks sizes).2.pool.Roomy configuration slack := by
  induction sizes generalizing synth with
  | nil =>
      exact roomy
  | cons frames rest inductionHypothesis =>
      have first := roomy.render small frames synth.channels
        synth.configuration.interpolation
      have next :
          (synth.renderBlock frames).2.pool.Roomy configuration slack := first
      exact inductionHypothesis next

end Synth

namespace SharedEngine

/-- How many references an engine may have beyond one for each voice. -/
def slack
    (configuration : SynthConfiguration)
    (engine : SharedEngine) :
    Nat :=
  if engine.draining then configuration.polyphony else 0

theorem slack_le
    (configuration : SynthConfiguration)
    (engine : SharedEngine) :
    engine.slack configuration ≤ configuration.polyphony := by
  unfold slack
  split <;> omega

variable [Transcendental] {configuration : SynthConfiguration}

/-- Every step of either thread leaves room in the queue. -/
theorem step?_roomy
    {step : LockStep}
    {before after : SharedEngine}
    (taken : before.step? step = some after)
    (roomy :
      before.synth.pool.Roomy configuration (before.slack configuration)) :
    after.synth.pool.Roomy configuration (after.slack configuration) := by
  have small := slack_le configuration before
  cases step with
  | mutate mutation =>
      simp only [step?] at taken
      split at taken
      · cases taken
      · rename_i notDraining
        cases taken
        have drained : before.synth.pool.Roomy configuration 0 := by
          simpa [slack, notDraining] using roomy
        exact drained.poolChange (mutation.poolChange before.synth)
  | beginDrain =>
      simp only [step?] at taken
      split at taken
      · cases taken
      · cases taken
        exact roomy.mono small
  | drop =>
      simp only [step?, ReclamationQueue.pop?] at taken
      split at taken
      · cases parkedShape : before.synth.pool.retired.parked with
        | nil =>
            simp only [parkedShape, Option.some.injEq] at taken
            subst after
            exact Synth.roomy_of_drained roomy parkedShape
        | cons oldest rest =>
            simp only [parkedShape, Option.some.injEq] at taken
            subst after
            have wider := roomy.mono small
            have bounded := wider.bounded
            rw [VoicePool.references, parkedShape] at bounded
            refine { wider with bounded := ?_ }
            simp only [VoicePool.references, Synth.withParked,
              List.length_append, List.length_cons, slack, if_true]
              at bounded ⊢
            omega
      · cases taken
  | render frames =>
      cases taken
      exact Synth.renderBlocks_roomy roomy small (blockSizes frames)

/-- Whatever the two threads do, the queue keeps room. -/
theorem run?_roomy
    {steps : List LockStep}
    {engine : SharedEngine}
    (accepted : run? steps (SharedEngine.new configuration) = some engine) :
    engine.synth.pool.Roomy configuration (engine.slack configuration) :=
  run?_preserves
    (fun current =>
      current.synth.pool.Roomy configuration (current.slack configuration))
    (fun taken held => step?_roomy taken held)
    accepted
    (Synth.roomy_new configuration)

/--
However the control thread's mutations and drains and the rendering thread's
calls follow one another, the queue never holds more than two references for
each voice.  That is within its capacity, and no reference is ever refused.
-/
theorem run?_never_overflows
    {configuration : SynthConfiguration}
    (polyphonic : 1 ≤ configuration.polyphony)
    {steps : List LockStep}
    {engine : SharedEngine}
    (accepted : run? steps (SharedEngine.new configuration) = some engine) :
    let queue := engine.synth.pool.retired
    queue.parked.length ≤ 2 * configuration.polyphony ∧
      queue.capacity =
        2 * configuration.polyphony + configuration.maxBanks ∧
      queue.parked.length ≤ queue.capacity ∧
      queue.refused = 0 := by
  intro queue
  have roomy := run?_roomy accepted
  have parked : queue.parked.length ≤ _ := roomy.parked_le
  have slackLe := slack_le configuration engine
  have twice : queue.parked.length ≤ 2 * configuration.polyphony := by
    omega
  refine ⟨twice, ?_, Nat.le_trans twice roomy.capacity_ge,
    roomy.noneRefused⟩
  rw [roomy.capacity, Synth.queueCapacity]
  omega

end SharedEngine

namespace SharedEngine

/-- One channel and one voice. -/
def soloConfiguration : SynthConfiguration where
  sampleRate := 44100
  channels := 1
  polyphony := 1
  gain := 1
  maxBanks := 1
  interpolation := .linear

/-- A bank of one preset, which plays one short recording. -/
def clickBank : Bank where
  name := "click"
  samples := #[0, 8000, -8000, 0]
  presets := [⟨"click", 0, 0, [.playing (.spanning 0 4 44100)]⟩]
  faultFree := by decide

/-- A note takes the only voice from another, and sounds before the drain. -/
def stealing : List LockStep :=
  [.mutate (.publish clickBank true), .drop,
    .mutate (.startNote 0 60 100), .drop,
    .mutate (.startNote 0 62 100), .render 64]

theorem stealing_never_overflows :
    1 ≤ soloConfiguration.polyphony ∧
      ∃ engine,
        run? stealing (SharedEngine.new soloConfiguration) = some engine ∧
          engine.synth.pool.retired.parked.length ≤ 2 ∧
          engine.synth.pool.retired.capacity = 3 ∧
          engine.synth.pool.retired.refused = 0 := by
  have polyphonic : 1 ≤ soloConfiguration.polyphony := by decide
  refine ⟨polyphonic, _, rfl, ?_⟩
  obtain ⟨twice, capacity, -, noneRefused⟩ :=
    run?_never_overflows polyphonic
      (rfl : run? stealing (SharedEngine.new soloConfiguration) = some _)
  exact ⟨twice, capacity, noneRefused⟩

end SharedEngine

end Polyphony.Engine
