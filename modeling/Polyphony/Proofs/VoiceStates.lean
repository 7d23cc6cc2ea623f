import Polyphony.Proofs.Blocks
import Polyphony.Proofs.Interleaving
import Polyphony.Proofs.Layers
import Polyphony.Proofs.Mutation

namespace Polyphony.Engine

/-!
# The states of all voices

Every call of a session leaves every voice well formed, and takes no voice from
its state to another but in one of the ways that its kind of call allows.  Both
are shown slot by slot, for mutations and for blocks of sound.
-/

open Number (Transcendental)
open Sound (EnvelopeStage Interpolation)
open SoundFont (BankLoader)

namespace Cause

/-- A state stays, or changes in a way that a cause allows. -/
def leads
    (cause : Cause)
    (before after : VoiceState) :
    Prop :=
  after = before ∨ cause.moves before after

/-- What two blocks of sound do to a voice could be done by one. -/
theorem leads_sound_trans
    {first second third : VoiceState}
    (earlier : sound.leads first second)
    (later : sound.leads second third) :
    sound.leads first third := by
  unfold leads at earlier later ⊢
  revert earlier later
  cases first <;> cases second <;> cases third <;> decide

end Cause

namespace VoicePool

/-- The slots stay; voices stay well formed and change as a cause allows. -/
structure Turns
    (cause : Cause)
    (before after : VoicePool) : Prop where
  sameSlots : after.voices.length = before.voices.length
  slotwise :
    ∀ {slot : Nat} {voice : Voice},
      before.voices[slot]? = some voice →
      ∃ last,
        after.voices[slot]? = some last ∧
          last.WellFormed ∧
          cause.leads voice.state last.state

namespace Turns

theorem wellFormed
    {cause : Cause}
    {before after : VoicePool}
    (turns : Turns cause before after) :
    after.WellFormed := by
  intro voice member
  obtain ⟨slot, inside, isVoice⟩ := List.getElem_of_mem member
  have insideBefore : slot < before.voices.length := by
    rw [← turns.sameSlots]
    exact inside
  obtain ⟨last, present, wellFormed, -⟩ :=
    turns.slotwise (List.getElem?_eq_getElem insideBefore)
  rw [List.getElem?_eq_getElem inside, isVoice] at present
  cases present
  exact wellFormed

theorem refl
    {pool : VoicePool}
    (wellFormed : pool.WellFormed)
    (cause : Cause) :
    Turns cause pool pool where
  sameSlots := rfl
  slotwise := by
    intro slot voice present
    exact ⟨voice, present, wellFormed voice (List.mem_of_getElem? present),
      .inl rfl⟩

/-- A change of each voice for itself. -/
theorem ofMap
    {cause : Cause}
    {before after : VoicePool}
    {change : Voice → Voice}
    (changed : after.voices = before.voices.map change)
    (keeps :
      ∀ voice ∈ before.voices,
        (change voice).WellFormed ∧
          cause.leads voice.state (change voice).state) :
    Turns cause before after where
  sameSlots := by simp [changed]
  slotwise := by
    intro slot voice present
    have kept := keeps voice (List.mem_of_getElem? present)
    exact ⟨change voice, by simp [changed, present], kept.1, kept.2⟩

/-- Two runs of sound, one after the other. -/
theorem sound_trans
    {before middle after : VoicePool}
    (earlier : Turns .sound before middle)
    (later : Turns .sound middle after) :
    Turns .sound before after where
  sameSlots := later.sameSlots.trans earlier.sameSlots
  slotwise := by
    intro slot voice present
    obtain ⟨next, nextPresent, -, first⟩ := earlier.slotwise present
    obtain ⟨last, lastPresent, wellFormed, second⟩ :=
      later.slotwise nextPresent
    exact ⟨last, lastPresent, wellFormed,
      Cause.leads_sound_trans first second⟩

end Turns

/-! ## Releases -/

theorem leads_release (voice : Voice) :
    Cause.release.leads voice.state voice.release.state := by
  cases state : voice.state <;>
    simp [Cause.leads, Cause.moves, Voice.release, Voice.isHeld, state]

theorem leads_forceRelease
    (seconds : Float32)
    (voice : Voice) :
    Cause.release.leads voice.state (voice.forceRelease seconds).state := by
  cases state : voice.state <;>
    simp [Cause.leads, Cause.moves, Voice.forceRelease, Voice.isFree, state]

theorem changeWhere_turns
    {pool : VoicePool}
    {change : Voice → Voice}
    (wellFormed : pool.WellFormed)
    (keeps : ∀ voice : Voice, voice.WellFormed → (change voice).WellFormed)
    (leads :
      ∀ voice : Voice, Cause.release.leads voice.state (change voice).state)
    (condition : Voice → Bool) :
    Turns .release pool (pool.changeWhere condition change) := by
  apply Turns.ofMap rfl
  intro voice member
  have before := wellFormed voice member
  by_cases chosen : condition voice
  · simp only [chosen, if_true]
    exact ⟨keeps voice before, leads voice⟩
  · simp only [chosen]
    exact ⟨before, .inl rfl⟩

/-- A release leaves a voice that is being released already as it is. -/
theorem changeWhere_release_of_releasing
    {pool : VoicePool}
    {slot : Nat}
    {voice : Voice}
    (present : pool.voices[slot]? = some voice)
    (releasing : voice.state = .releasing)
    (condition : Voice → Bool) :
    (pool.changeWhere condition Voice.release).voices[slot]? =
      some voice := by
  have notHeld : voice.isHeld = false := by
    simp [Voice.isHeld, releasing]
  simp [changeWhere, present, Voice.release_of_not_held notHeld]

/-! ## Notes -/

theorem turns_of_struck
    {note : Note}
    {source : BankReference}
    {stolen : List StolenVoice}
    {pool after : VoicePool}
    (wellFormed : pool.WellFormed)
    (sameSlots : after.voices.length = pool.voices.length)
    (struckAt :
      ∀ {slot : Nat} {voice : Voice},
        pool.voices[slot]? = some voice →
        ∃ last,
          after.voices[slot]? = some last ∧
            Struck note source stolen slot voice last) :
    Turns .noteOn pool after where
  sameSlots := sameSlots
  slotwise := by
    intro slot voice present
    obtain ⟨last, lastPresent, struck⟩ := struckAt present
    refine ⟨last, lastPresent, ?_⟩
    cases struck with
    | kept =>
        exact ⟨wellFormed voice (List.mem_of_getElem? present), .inl rfl⟩
    | started cause attacking own holding startedWellFormed =>
        refine ⟨startedWellFormed, .inr ?_⟩
        simp [Cause.moves, attacking]

variable [Transcendental]

theorem startLayers_turns
    {pool : VoicePool}
    (wellFormed : pool.WellFormed)
    (note : Note)
    (source : BankReference)
    (zones : List Instrument.Zone) :
    Turns .noteOn pool (pool.startLayers note source zones).2 :=
  turns_of_struck wellFormed (length_startLayers note source zones pool)
    (startLayers_struck note source zones pool)

theorem LayerStart.turns
    {note : Note}
    {source : BankReference}
    {zone : Instrument.Zone}
    {pool after : VoicePool}
    {stolen? : Option StolenVoice}
    (layer : pool.LayerStart note source zone stolen? after)
    (wellFormed : pool.WellFormed) :
    Turns .noteOn pool after :=
  turns_of_struck wellFormed layer.length layer.struck

/-- A mutation changes the states of voices as its cause allows. -/
theorem turns_of_poolChange
    {banks : List BankReference}
    {cause : Cause}
    {pool after : VoicePool}
    (wellFormed : pool.WellFormed)
    (change : PoolChange banks pool cause after) :
    Turns cause pool after := by
  cases change with
  | unchanged =>
      exact .refl wellFormed cause
  | layers note zones loaded =>
      exact startLayers_turns wellFormed note _ zones
  | released condition =>
      exact changeWhere_turns wellFormed (fun _ => .release) leads_release
        condition
  | cut condition seconds =>
      exact changeWhere_turns wellFormed (fun _ before =>
        before.forceRelease seconds) (leads_forceRelease seconds) condition

/-! ## Sound -/

theorem render_turns
    {pool : VoicePool}
    (wellFormed : pool.WellFormed)
    (frames : Nat)
    (channels : List Channel)
    (method : Interpolation) :
    Turns .sound pool (pool.render frames channels method).2 := by
  apply Turns.ofMap (by rw [render_eq])
  intro voice member
  have before := wellFormed voice member
  have after := before.outlasts frames channels method
  generalize voice.blockEnd frames channels method = outcome at after ⊢
  cases after with
  | rested free =>
      exact ⟨before, .inl rfl⟩
  | ended notFree free lastWellFormed =>
      refine ⟨lastWellFormed, ?_⟩
      rw [Voice.isFree_iff] at free
      cases state : voice.state <;> simp [Cause.leads, Cause.moves, free]
  | continued notFree holding state lastWellFormed sounding =>
      refine ⟨lastWellFormed, ?_⟩
      rcases state with same | ⟨attacking, sustaining⟩
      · exact .inl same
      · simp [Cause.leads, Cause.moves, attacking, sustaining]

/-- After a block, every voice is free or goes on sounding. -/
theorem render_sounding
    {pool : VoicePool}
    (wellFormed : pool.WellFormed)
    (frames : Nat)
    (channels : List Channel)
    (method : Interpolation)
    {voice : Voice}
    (member : voice ∈ (pool.render frames channels method).2.voices)
    (notFree : ¬ voice.isFree) :
    voice.Sounding := by
  rw [render_eq] at member
  obtain ⟨old, oldMember, isVoice⟩ := List.mem_map.mp member
  have after := (wellFormed old oldMember).outlasts frames channels method
  generalize old.blockEnd frames channels method = outcome at after isVoice
  subst isVoice
  cases after with
  | rested free => exact absurd free notFree
  | ended oldNotFree free lastWellFormed => exact absurd free notFree
  | continued oldNotFree holding state lastWellFormed sounding =>
      exact sounding

end VoicePool

namespace Synth

theorem wellFormed_new (configuration : SynthConfiguration) :
    (Synth.new configuration).pool.WellFormed :=
  VoicePool.wellFormed_new configuration.sampleRate _ _

variable [Transcendental]

/-- Mutations, drops and blocks keep all voices well formed. -/
theorem wellFormed_invariant : Invariant fun synth => synth.pool.WellFormed where
  mutation := by
    intro mutation synth wellFormed
    exact (VoicePool.turns_of_poolChange wellFormed
      (mutation.poolChange synth)).wellFormed
  drops := by
    intro parked synth _ wellFormed
    exact wellFormed
  block := by
    intro frames synth wellFormed
    exact (VoicePool.render_turns wellFormed frames synth.channels
      synth.configuration.interpolation).wellFormed

theorem renderBlocks_turns
    {synth : Synth}
    (wellFormed : synth.pool.WellFormed)
    (sizes : List Nat) :
    VoicePool.Turns .sound synth.pool (synth.renderBlocks sizes).2.pool := by
  induction sizes generalizing synth with
  | nil =>
      exact .refl wellFormed .sound
  | cons frames rest inductionHypothesis =>
      have first :=
        VoicePool.render_turns wellFormed frames synth.channels
          synth.configuration.interpolation
      have others :=
        inductionHypothesis (wellFormed_invariant.block frames wellFormed)
      exact first.sound_trans others

/-- Only the last block decides whether voices go on sounding. -/
theorem renderBlocks_sounding
    {synth : Synth}
    (wellFormed : synth.pool.WellFormed)
    {sizes : List Nat}
    (some : sizes ≠ [])
    {voice : Voice}
    (member : voice ∈ (synth.renderBlocks sizes).2.pool.voices)
    (notFree : ¬ voice.isFree) :
    voice.Sounding := by
  induction sizes generalizing synth with
  | nil =>
      exact absurd rfl some
  | cons frames rest inductionHypothesis =>
      cases rest with
      | nil =>
          exact VoicePool.render_sounding wellFormed frames _ _ member notFree
      | cons next others =>
          exact inductionHypothesis
            (wellFormed_invariant.block frames wellFormed) (by simp) member

end Synth

/-- Whether a command lets go of keys. -/
def Command.letsGo : Command → Bool
  | .noteOff _ _
  | .midi (.noteOff _ _ _)
  | .allNotesOff _ => true
  | .controlChange _ controller _
  | .midi (.controlChange _ controller _) =>
      controller = Controller.allNotesOff
  | _ => false

/-- What a call can do to voices. -/
def Action.cause
    (synth : Synth) :
    Action → Cause
  | .control loader command =>
      match command.mutation? loader synth with
      | some mutation => mutation.cause
      | none => .none
  | .render _ => .sound
  | .renderSamples _ => .sound

namespace Synth

theorem applyController_allNotesOff
    (channel value : Nat)
    (synth : Synth) :
    (synth.applyController channel Controller.allNotesOff value).pool =
      (synth.pool.releaseChannel (some channel)) := by
  simp [applyController, changePool, Controller.allNotesOff,
    Controller.allSoundOff]

variable [Transcendental]

/-- Every call changes the states of voices as its cause allows. -/
theorem act_turns
    {synth : Synth}
    (wellFormed : synth.pool.WellFormed)
    (action : Action) :
    VoicePool.Turns (action.cause synth) synth.pool (synth.act action).pool := by
  cases action with
  | control loader command =>
      rw [act, perform_synth, Action.cause]
      cases command.mutation? loader synth with
      | none =>
          exact .refl wellFormed .none
      | some mutation =>
          have turns :=
            VoicePool.turns_of_poolChange wellFormed
              (mutation.poolChange synth)
          exact ⟨turns.sameSlots, turns.slotwise⟩
  | render frames =>
      exact renderBlocks_turns wellFormed (blockSizes frames)
  | renderSamples frames =>
      have turns := renderBlocks_turns wellFormed (blockSizes frames)
      exact ⟨turns.sameSlots, turns.slotwise⟩

/-- A note leaves a slot alone, or starts in it and accounts for its voice. -/
theorem startNote_slot
    {synth : Synth}
    (channel key velocity : Nat)
    {slot : Nat}
    {voice : Voice}
    (present : synth.pool.voices[slot]? = some voice) :
    let started := synth.startNote channel key velocity
    ∃ last,
      started.2.pool.voices[slot]? = some last ∧
        (last = voice ∨
          last.state = .attacking ∧
            (voice.isFree ∨
              VoicePool.reported slot voice ∈ started.1.stolen)) := by
  intro started
  have startedShape : started = synth.startNote channel key velocity := rfl
  rw [startNote_eq] at startedShape
  cases sounding : synth.notePreset? channel with
  | none =>
      simp only [sounding] at startedShape
      rw [startedShape]
      exact ⟨voice, present, .inl rfl⟩
  | some bound =>
      obtain ⟨source, preset⟩ := bound
      simp only [sounding] at startedShape
      obtain ⟨last, lastPresent, struck⟩ :=
        VoicePool.startLayers_struck
          ⟨channel, key, velocity, synth.nextSerial⟩ source
          (preset.layers key velocity) synth.pool present
      rw [startedShape]
      refine ⟨last, lastPresent, ?_⟩
      cases struck with
      | kept =>
          exact .inl rfl
      | started cause attacking own holding wellFormed =>
          exact .inr ⟨attacking, cause.imp_right And.right⟩

/-- A key that is let go of releases voices. -/
theorem apply_of_keyReleased
    {channel key : Nat}
    {mutation : Mutation}
    {synth : Synth}
    (valid :
      (if key ≤ 127 then
        synth.ifChannel channel (.releaseKey channel key)
      else
        none) = some mutation) :
    ∃ condition,
      (mutation.apply synth).pool =
        synth.pool.changeWhere condition Voice.release := by
  split at valid
  · rw [eq_of_ifChannel valid]
    exact ⟨_, rfl⟩
  · cases valid

/-- The controller that lets go of all keys releases voices. -/
theorem apply_of_allNotesOff
    {channel controller value : Nat}
    {mutation : Mutation}
    {synth : Synth}
    (allNotesOff : controller = Controller.allNotesOff)
    (valid :
      synth.ifChannel channel (.applyController channel controller value) =
        some mutation) :
    ∃ condition,
      (mutation.apply synth).pool =
        synth.pool.changeWhere condition Voice.release := by
  rw [eq_of_ifChannel valid, allNotesOff]
  exact ⟨_, applyController_allNotesOff channel value synth⟩

/-- Keys are let go of by the release of some voices. -/
theorem apply_of_letsGo
    {loader : BankLoader}
    {command : Command}
    {mutation : Mutation}
    {synth : Synth}
    (letsGo : command.letsGo)
    (carriedOut : command.mutation? loader synth = some mutation) :
    ∃ condition,
      (mutation.apply synth).pool =
        synth.pool.changeWhere condition Voice.release := by
  cases command with
  | noteOff channel key =>
      exact apply_of_keyReleased carriedOut
  | allNotesOff channel? =>
      cases channel? with
      | none =>
          cases carriedOut
          exact ⟨_, rfl⟩
      | some channel =>
          rw [eq_of_ifChannel carriedOut]
          exact ⟨_, rfl⟩
  | controlChange channel controller value =>
      exact apply_of_allNotesOff (of_decide_eq_true letsGo) carriedOut
  | midi event =>
      cases event with
      | noteOff channel key velocity =>
          exact apply_of_keyReleased carriedOut
      | controlChange channel controller value =>
          exact apply_of_allNotesOff (of_decide_eq_true letsGo) carriedOut
      | noteOn channel key velocity => cases letsGo
      | pitchBend channel value => cases letsGo
      | programChange channel program => cases letsGo
  | addBank bank updatePresets => cases letsGo
  | load path updatePresets => cases letsGo
  | unload id updatePresets => cases letsGo
  | programSelect channel id bankNumber program => cases letsGo
  | programChange channel program => cases letsGo
  | noteOn channel key velocity => cases letsGo
  | allSoundsOff channel? => cases letsGo
  | pitchBend channel value => cases letsGo

/--
At every point of a session, every voice is well formed; after a render call
that is not empty, every voice that is not free goes on sounding; a call changes
the state of a voice only as its cause allows, and a note that takes the slot
of a voice reports it; and letting go of keys does nothing to a voice that is
being released already.
-/
theorem run_voices_keep_their_course
    (configuration : SynthConfiguration)
    (actions : List Action) :
    let synth := (Synth.new configuration).run actions
    (∀ voice ∈ synth.pool.voices, voice.WellFormed) ∧
      (∀ frames,
        1 ≤ frames →
        ∀ voice ∈ (synth.render frames).2.pool.voices,
          ¬ voice.isFree →
          voice.Sounding) ∧
      (∀ (action : Action) (slot : Nat) (voice : Voice),
        synth.pool.voices[slot]? = some voice →
        ∃ last,
          (synth.act action).pool.voices[slot]? = some last ∧
            (last.state = voice.state ∨
              (action.cause synth).moves voice.state last.state)) ∧
      (∀ (channel key velocity slot : Nat) (voice : Voice),
        synth.pool.voices[slot]? = some voice →
        let started := synth.startNote channel key velocity
        ∃ last,
          started.2.pool.voices[slot]? = some last ∧
            (last = voice ∨
              last.state = .attacking ∧
                (voice.isFree ∨
                  VoicePool.reported slot voice ∈ started.1.stolen))) ∧
      (∀ (serial : Nat) (allocation : Allocation) (ready : VoicePool),
        synth.pool.allocate? serial = some (allocation, ready) →
        ∀ (slot : Nat) (voice : Voice),
          synth.pool.voices[slot]? = some voice →
          ∃ last,
            ready.voices[slot]? = some last ∧
              (last = voice ∨
                allocation.stolen? = some (VoicePool.reported slot voice) ∧
                  last.isFree)) ∧
      ∀ (loader : BankLoader) (command : Command) (slot : Nat) (voice : Voice),
        command.letsGo →
        synth.pool.voices[slot]? = some voice →
        voice.state = .releasing →
        (synth.act (.control loader command)).pool.voices[slot]? =
          some voice := by
  intro synth
  have wellFormed : synth.pool.WellFormed :=
    wellFormed_invariant.run actions (wellFormed_new configuration)
  refine ⟨wellFormed, ?_, ?_, ?_, ?_, ?_⟩
  · intro frames some voice member notFree
    exact renderBlocks_sounding wellFormed (blockSizes_ne_nil some) member
      notFree
  · intro action slot voice present
    obtain ⟨last, lastPresent, -, leads⟩ :=
      (act_turns wellFormed action).slotwise present
    exact ⟨last, lastPresent, leads⟩
  · intro channel key velocity slot voice present
    exact startNote_slot channel key velocity present
  · intro serial allocation ready allocated slot voice present
    exact VoicePool.allocate?_slot allocated present
  · intro loader command slot voice letsGo present releasing
    rw [act, perform_synth]
    cases carriedOut : command.mutation? loader synth with
    | none =>
        exact present
    | some mutation =>
        obtain ⟨condition, released⟩ := apply_of_letsGo letsGo carriedOut
        have kept :=
          VoicePool.changeWhere_release_of_releasing present releasing
            condition
        rw [← released] at kept
        exact kept

end Synth

end Polyphony.Engine
