import Mathlib.Algebra.GroupWithZero.Nat
import Polyphony.Proofs.Fading

namespace Polyphony.Engine

/-!
# How released voices wane

Of the voices that were started for certain origins none may be started any
more.  Those that are left then stay in their slots, and each frame that is
rendered takes one from the time that a released one of them has left.  This is
shown for every public call, and from that for every session.
-/

open Instrument (BankId Zone)
open Number (Transcendental)
open Sound (Interpolation)
open SoundFont (BankLoader)

/-- The number of frames that a call renders. -/
def Action.frames : Action → Nat
  | .control _ _ => 0
  | .render frames => frames
  | .renderSamples frames => frames

/-- The number of frames that some calls render, all together. -/
def totalFrames (actions : List Action) : Nat :=
  (actions.map Action.frames).sum

/-- Blocks leave no frame out. -/
theorem sum_blockSizes (frames : Nat) :
    (blockSizes frames).sum = frames := by
  unfold blockSizes blockSize
  split <;> simp <;> omega

namespace VoicePool

/--
The watched voices that are sounding were sounding before, in the same slots and
for the same origins, and those that were being released are so many frames
nearer to their end.
-/
def Wanes
    (watched : Origin → Prop)
    (frames : Nat)
    (before after : VoicePool) : Prop :=
  ∀ (slot : Nat) (last : Voice),
    after.voices[slot]? = some last →
    ¬ last.isFree →
    watched last.origin →
    ∃ voice,
      before.voices[slot]? = some voice ∧
        ¬ voice.isFree ∧
        voice.origin = last.origin ∧
        ∀ count,
          voice.FadesWithin count →
          last.FadesWithin (count - frames)

namespace Wanes

variable {watched : Origin → Prop}

theorem refl
    (watched : Origin → Prop)
    (pool : VoicePool) :
    pool.Wanes watched 0 pool := by
  intro slot last present sounding _
  exact ⟨last, present, sounding, rfl, fun _ fades => fades⟩

/-- The frames of calls that follow one another add up. -/
theorem trans
    {earlier later : Nat}
    {before middle after : VoicePool}
    (first : before.Wanes watched earlier middle)
    (second : middle.Wanes watched later after) :
    before.Wanes watched (earlier + later) after := by
  intro slot last present sounding isWatched
  obtain ⟨next, nextPresent, nextSounding, nextOrigin, nextFades⟩ :=
    second slot last present sounding isWatched
  rw [← nextOrigin] at isWatched ⊢
  obtain ⟨voice, voicePresent, voiceSounding, sameOrigin, fades⟩ :=
    first slot next nextPresent nextSounding isWatched
  refine ⟨voice, voicePresent, voiceSounding, sameOrigin, ?_⟩
  intro count voiceFades
  rw [← Nat.sub_sub]
  exact nextFades _ (fades count voiceFades)

/-- What is done to each voice for itself, without making a release longer. -/
theorem ofMap
    {frames : Nat}
    {before after : VoicePool}
    {change : Voice → Voice}
    (changed : after.voices = before.voices.map change)
    (keeps :
      ∀ voice ∈ before.voices,
        ¬ (change voice).isFree →
        ¬ voice.isFree ∧
          voice.origin = (change voice).origin ∧
          ∀ count,
            voice.FadesWithin count →
            (change voice).FadesWithin (count - frames)) :
    before.Wanes watched frames after := by
  intro slot last present sounding _
  rw [changed, List.getElem?_map, Option.map_eq_some_iff] at present
  obtain ⟨voice, voicePresent, isLast⟩ := present
  subst last
  exact ⟨voice, voicePresent,
    keeps voice (List.mem_of_getElem? voicePresent) sounding⟩

theorem released
    (condition : Voice → Bool)
    (pool : VoicePool) :
    pool.Wanes watched 0 (pool.changeWhere condition Voice.release) := by
  apply ofMap rfl
  intro voice _
  split
  · intro sounding
    rw [Voice.isFree_release] at sounding
    exact ⟨sounding, voice.origin_release.symm, fun _ fades => fades.release⟩
  · intro sounding
    exact ⟨sounding, rfl, fun _ fades => fades⟩

theorem cut
    (condition : Voice → Bool)
    (seconds : Float32)
    (pool : VoicePool) :
    pool.Wanes watched 0
      (pool.changeWhere condition (Voice.forceRelease seconds)) := by
  apply ofMap rfl
  intro voice _
  split
  · intro sounding
    rw [Voice.isFree_forceRelease] at sounding
    exact ⟨sounding, (voice.origin_forceRelease seconds).symm,
      fun _ fades => fades.forceRelease seconds⟩
  · intro sounding
    exact ⟨sounding, rfl, fun _ fades => fades⟩

variable [Transcendental]

/-- A note of another origin takes slots, and leaves the others alone. -/
theorem layers
    {note : Note}
    {source : BankReference}
    (unwatched : ¬ watched ⟨note, some source⟩)
    (zones : List Zone)
    (pool : VoicePool) :
    pool.Wanes watched 0 (pool.startLayers note source zones).2 := by
  intro slot last present sounding isWatched
  have insideBefore : slot < pool.voices.length := by
    rw [← length_startLayers note source zones pool]
    exact (List.getElem?_eq_some_iff.mp present).1
  have beforePresent := List.getElem?_eq_getElem insideBefore
  obtain ⟨other, otherPresent, course⟩ :=
    pool.startLayers_voice note source zones beforePresent
  have isOther : last = other :=
    Option.some.inj (present.symm.trans otherPresent)
  subst other
  rcases course with kept | ⟨zone, -, started, -⟩
  · rw [← kept] at beforePresent
    exact ⟨last, beforePresent, sounding, rfl, fun _ fades => fades⟩
  · rw [started, Voice.origin_start] at isWatched
    exact absurd isWatched unwatched

theorem rendered
    {pool : VoicePool}
    (wellFormed : pool.WellFormed)
    (frames : Nat)
    (channels : List Channel)
    (method : Interpolation) :
    pool.Wanes watched frames (pool.render frames channels method).2 := by
  apply ofMap (by rw [render_eq])
  intro voice member sounding
  obtain ⟨notFree, hasSounded⟩ := Voice.blockEnd_of_sounding sounding
  refine ⟨notFree, ?_, ?_⟩
  · rw [hasSounded, Voice.origin_sounded]
  · intro count fades
    exact fades.blockEnd (wellFormed voice member) sounding

end Wanes

end VoicePool

namespace Synth

variable [Transcendental] {watched : Origin → Prop}

/-- A call starts no voice of the watched origins. -/
def Spares
    (watched : Origin → Prop)
    (action : Action)
    (synth : Synth) : Prop :=
  ∀ loader command channel key velocity source preset,
    action = .control loader command →
    command.mutation? loader synth =
      some (.startNote channel key velocity) →
    synth.notePreset? channel = some (source, preset) →
    ¬ watched ⟨⟨channel, key, velocity, synth.nextSerial⟩, some source⟩

/-- Mutations that start no watched voice make no watched voice last longer. -/
theorem mutation_wanes
    {mutation : Mutation}
    {synth : Synth}
    (spares :
      ∀ channel key velocity source preset,
        mutation = .startNote channel key velocity →
        synth.notePreset? channel = some (source, preset) →
        ¬ watched ⟨⟨channel, key, velocity, synth.nextSerial⟩, some source⟩) :
    synth.pool.Wanes watched 0 (mutation.apply synth).pool := by
  have effect := mutation.effect synth
  generalize mutation.apply synth = after at effect ⊢
  cases effect with
  | published updatePresets inserted => exact .refl watched _
  | refused updatePresets inserted => exact .refl watched _
  | withdrawn updatePresets removed => exact .cut _ _ _
  | unknown updatePresets removed => exact .refl watched _
  | selected leavesTable notNote found inside => exact .refl watched _
  | searched bankNumber program => exact .refl watched _
  | adjusted leavesTable notNote sameBinding => exact .refl watched _
  | noteStarted key velocity sounding =>
      exact .layers (spares _ _ _ _ _ rfl sounding) _ _
  | silent key velocity sounding => exact .refl watched _
  | released condition => exact .released condition _
  | cut condition seconds => exact .cut condition seconds _

/-- The frames of the blocks of a render call add up. -/
theorem renderBlocks_wanes
    {synth : Synth}
    (wellFormed : synth.pool.WellFormed)
    (sizes : List Nat) :
    synth.pool.Wanes watched sizes.sum (synth.renderBlocks sizes).2.pool := by
  induction sizes generalizing synth with
  | nil =>
      exact .refl watched synth.pool
  | cons frames rest inductionHypothesis =>
      have first :
          synth.pool.Wanes watched frames (synth.renderBlock frames).2.pool :=
        .rendered wellFormed frames synth.channels
          synth.configuration.interpolation
      have others :=
        inductionHypothesis (wellFormed_invariant.block frames wellFormed)
      rw [List.sum_cons]
      exact first.trans others

/-- A call that starts no watched voice lets the watched voices wane. -/
theorem act_wanes
    {action : Action}
    {synth : Synth}
    (wellFormed : synth.pool.WellFormed)
    (spares : synth.Spares watched action) :
    synth.pool.Wanes watched action.frames (synth.act action).pool := by
  cases action with
  | control loader command =>
      rw [act, perform_synth, Action.frames]
      cases carriedOut : command.mutation? loader synth with
      | none =>
          exact .refl watched synth.pool
      | some mutation =>
          have mutated : synth.pool.Wanes watched 0 (mutation.apply synth).pool :=
            mutation_wanes fun channel key velocity source preset isNote =>
              spares loader command channel key velocity source preset rfl
                (isNote ▸ carriedOut)
          exact mutated
  | render frames =>
      have waned :
          synth.pool.Wanes watched _ (synth.render frames).2.pool :=
        renderBlocks_wanes wellFormed (blockSizes frames)
      rwa [sum_blockSizes] at waned
  | renderSamples frames =>
      have waned :
          synth.pool.Wanes watched _ (synth.render frames).2.pool :=
        renderBlocks_wanes wellFormed (blockSizes frames)
      rw [sum_blockSizes] at waned
      exact waned

/--
In a session whose calls start no watched voice, the watched voices wane by all
the frames that are rendered.
-/
theorem run_wanes
    {safe : Synth → Prop}
    (invariant : Invariant safe)
    {actions : List Action}
    (spares :
      ∀ action ∈ actions,
        ∀ {synth : Synth},
          safe synth →
          synth.Spares watched action)
    {synth : Synth}
    (wellFormed : synth.pool.WellFormed)
    (initially : safe synth) :
    synth.pool.Wanes watched (totalFrames actions) (synth.run actions).pool := by
  induction actions generalizing synth with
  | nil =>
      exact .refl watched synth.pool
  | cons action rest inductionHypothesis =>
      have first := act_wanes wellFormed (spares action (by simp) initially)
      have others :=
        inductionHypothesis
          (fun later member => spares later (List.mem_cons_of_mem action member))
          (wellFormed_invariant.run [action] wellFormed)
          (invariant.run [action] initially)
      exact first.trans others

end Synth

end Polyphony.Engine
