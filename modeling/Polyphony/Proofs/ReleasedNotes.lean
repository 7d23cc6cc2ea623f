import Polyphony.Proofs.QueueRoom
import Polyphony.Proofs.Waning

namespace Polyphony.Engine

/-!
# Released notes end

When a key is released, all voices that it holds begin to fade, and nothing else
changes.  From then on the longest of their fades bounds how long the key can
still be heard: unless it is pressed again, none of its voices is left once so
many frames have been rendered, whatever calls come between.
-/

open Number (Transcendental)
open SoundFont (BankLoader)

/-- Whether a command presses a key of a channel. -/
def Command.presses
    (channel key : Nat) :
    Command → Bool
  | .noteOn pressedChannel pressedKey _
  | .midi (.noteOn pressedChannel pressedKey _) =>
      pressedChannel = channel && pressedKey = key
  | _ => false

/-- Whether a call presses a key of a channel. -/
def Action.presses
    (channel key : Nat) :
    Action → Bool
  | .control _ command => command.presses channel key
  | .render _ => false
  | .renderSamples _ => false

namespace VoicePool

/-- A key that is released holds no voice. -/
theorem not_isHeldBy_of_releaseKey
    {channel key : Nat}
    {pool : VoicePool}
    {voice : Voice}
    (member : voice ∈ (pool.releaseKey channel key).voices) :
    ¬ isHeldBy channel key voice := by
  obtain ⟨old, -, isVoice⟩ := List.mem_map.mp member
  subst voice
  split
  · rename_i heldBy
    have held : old.isHeld := by
      simp only [isHeldBy, Bool.and_eq_true] at heldBy
      exact heldBy.1.1
    have releasing : old.release.state = .releasing := by
      simp [Voice.release, held]
    simp [isHeldBy, Voice.isHeld, releasing]
  · assumption

/-- The release of a key leaves a voice alone that the key does not hold. -/
theorem releaseKey_of_not_isHeldBy
    {channel key slot : Nat}
    {pool : VoicePool}
    {voice : Voice}
    (present : pool.voices[slot]? = some voice)
    (notHeldBy : ¬ isHeldBy channel key voice) :
    (pool.releaseKey channel key).voices[slot]? = some voice := by
  simp [releaseKey, changeWhere, present, notHeldBy]

/-- Whether a voice is being released on a channel by a key. -/
def isReleasedBy
    (channel key : Nat)
    (voice : Voice) :
    Bool :=
  voice.state = .releasing && voice.channel = channel && voice.key = key

/-- The longest of the fades of a key that has been released. -/
def longestFade
    (channel key : Nat)
    (pool : VoicePool) :
    Nat :=
  (pool.voices.filter (isReleasedBy channel key)).foldr
    (fun voice longest => max voice.fadeLength longest)
    0

/-- No fade of a key is longer than the longest. -/
theorem fadeLength_le_longestFade
    {channel key : Nat}
    {pool : VoicePool}
    {voice : Voice}
    (member : voice ∈ pool.voices)
    (released : isReleasedBy channel key voice) :
    voice.fadeLength ≤ pool.longestFade channel key := by
  have listed : voice ∈ pool.voices.filter (isReleasedBy channel key) :=
    List.mem_filter.mpr ⟨member, released⟩
  unfold longestFade
  generalize pool.voices.filter (isReleasedBy channel key) = fading at listed ⊢
  induction fading with
  | nil =>
      cases listed
  | cons first rest inductionHypothesis =>
      rw [List.foldr_cons]
      rcases List.mem_cons.mp listed with isFirst | later
      · subst first
        exact Nat.le_max_left _ _
      · exact Nat.le_trans (inductionHypothesis later) (Nat.le_max_right _ _)

end VoicePool

namespace Voice

/-- A voice that is being released lasts for as long as its fade. -/
theorem WellFormed.fadesWithin
    {voice : Voice}
    (wellFormed : voice.WellFormed)
    (counting : voice.envelope.Counting)
    (releasing : voice.state = .releasing) :
    voice.FadesWithin voice.fadeLength where
  releasing := releasing
  envelope := by
    have fading := wellFormed.staged
    rw [releasing] at fading
    exact counting.fadesWithin fading

/-- A voice that is not free is held, or is being released. -/
theorem releasing_of_not_held
    {voice : Voice}
    (sounding : ¬ voice.isFree)
    (notHeld : ¬ voice.isHeld) :
    voice.state = .releasing := by
  cases state : voice.state <;> simp_all [isFree, isHeld]

end Voice

/-- The mutation of a command starts a note only if the command presses its key. -/
theorem Command.presses_of_startNote
    {loader : BankLoader}
    {command : Command}
    {synth : Synth}
    {channel key velocity : Nat}
    (starts :
      command.mutation? loader synth =
        some (.startNote channel key velocity)) :
    command.presses channel key := by
  cases Command.asksFor starts with
  | noteOn channel key velocity => simp [presses]
  | noteOnEvent channel key velocity => simp [presses]

namespace Synth

/-- The release of a key of a channel that is there succeeds. -/
theorem noteOff_eq
    {channel key : Nat}
    {synth : Synth}
    (channelValid : channel < synth.configuration.channels)
    (keyValid : key ≤ 127) :
    synth.noteOff channel key =
      (synth.changePool (·.releaseKey channel key)).complete [] := by
  simp [noteOff, onChannel, channelError?, onKey,
    Nat.not_le.mpr channelValid, Nat.not_lt.mpr keyValid]

/-- Whether an origin is a note of a key. -/
def playedBy
    (channel key : Nat)
    (origin : Origin) : Prop :=
  origin.note.channel = channel ∧ origin.note.key = key

/-- A call that does not press a key starts none of its voices. -/
theorem spares_of_not_presses
    {channel key : Nat}
    {action : Action}
    (notPressed : ¬ action.presses channel key)
    (synth : Synth) :
    synth.Spares (playedBy channel key) action := by
  intro loader command startedChannel startedKey velocity source preset
    isControl starts _ played
  obtain ⟨sameChannel, sameKey⟩ := played
  have pressed := Command.presses_of_startNote starts
  simp only at sameChannel sameKey
  rw [sameChannel, sameKey] at pressed
  rw [isControl] at notPressed
  exact notPressed pressed

variable [Transcendental]

/-! ## No call makes a release longer -/

/-- A mutation that leaves a slot to a released voice makes it last no longer. -/
theorem mutation_fades
    {count slot : Nat}
    {mutation : Mutation}
    {synth : Synth}
    {voice last : Voice}
    (present : synth.pool.voices[slot]? = some voice)
    (lastPresent : (mutation.apply synth).pool.voices[slot]? = some last)
    (fades : voice.FadesWithin count)
    (releasing : last.state = .releasing) :
    last.FadesWithin count := by
  have change := mutation.poolChange synth
  generalize (mutation.apply synth).pool = after at change lastPresent
  generalize mutation.cause = cause at change
  cases change with
  | unchanged =>
      rw [present] at lastPresent
      cases lastPresent
      exact fades
  | layers note zones loaded =>
      obtain ⟨other, otherPresent, course⟩ :=
        synth.pool.startLayers_voice note _ zones present
      rw [otherPresent] at lastPresent
      cases lastPresent
      rcases course with kept | ⟨zone, -, started, -⟩
      · rw [kept]
        exact fades
      · rw [started] at releasing
        cases releasing
  | released condition =>
      simp only [VoicePool.changeWhere, List.getElem?_map, present,
        Option.map_some, Option.some.injEq] at lastPresent
      subst last
      split
      · exact fades.release
      · exact fades
  | cut condition seconds =>
      simp only [VoicePool.changeWhere, List.getElem?_map, present,
        Option.map_some, Option.some.injEq] at lastPresent
      subst last
      split
      · exact fades.forceRelease seconds
      · exact fades

/-- Rendering takes frames from what is left to a released voice. -/
theorem renderBlocks_fades
    {count slot : Nat}
    {synth : Synth}
    {voice last : Voice}
    (wellFormed : synth.pool.WellFormed)
    (sizes : List Nat)
    (present : synth.pool.voices[slot]? = some voice)
    (lastPresent :
      (synth.renderBlocks sizes).2.pool.voices[slot]? = some last)
    (fades : voice.FadesWithin count)
    (releasing : last.state = .releasing) :
    last.FadesWithin count := by
  have sounding : ¬ last.isFree := by
    simp [Voice.isFree, releasing]
  have wanes :
      synth.pool.Wanes (fun _ => True) sizes.sum
        (synth.renderBlocks sizes).2.pool :=
    renderBlocks_wanes wellFormed sizes
  obtain ⟨old, oldPresent, -, -, less⟩ :=
    wanes slot last lastPresent sounding trivial
  rw [present] at oldPresent
  cases oldPresent
  have fewer := less count fades
  exact ⟨fewer.releasing, fewer.envelope.mono (Nat.sub_le count sizes.sum)⟩

/-- A call that leaves a slot to a released voice makes it last no longer. -/
theorem act_fades
    {count slot : Nat}
    {synth : Synth}
    {voice last : Voice}
    (wellFormed : synth.pool.WellFormed)
    (action : Action)
    (present : synth.pool.voices[slot]? = some voice)
    (lastPresent : (synth.act action).pool.voices[slot]? = some last)
    (fades : voice.FadesWithin count)
    (releasing : last.state = .releasing) :
    last.FadesWithin count := by
  cases action with
  | control loader command =>
      rw [act, perform_synth] at lastPresent
      cases carriedOut : command.mutation? loader synth with
      | none =>
          rw [carriedOut, concluded_none, present] at lastPresent
          cases lastPresent
          exact fades
      | some mutation =>
          rw [carriedOut] at lastPresent
          exact mutation_fades present lastPresent fades releasing
  | render frames =>
      exact renderBlocks_fades wellFormed (blockSizes frames) present
        lastPresent fades releasing
  | renderSamples frames =>
      exact renderBlocks_fades wellFormed (blockSizes frames) present
        lastPresent fades releasing

/-! ## A key that is released falls silent -/

/-- Where a key holds no voice, its voices end with their longest fade. -/
theorem run_ends_released
    {channel key : Nat}
    {synth : Synth}
    (wellFormed : synth.pool.WellFormed)
    (counting : ∀ voice ∈ synth.pool.voices, voice.envelope.Counting)
    (noneHeld :
      ∀ voice ∈ synth.pool.voices,
        ¬ VoicePool.isHeldBy channel key voice)
    {actions : List Action}
    (notPressed : ∀ action ∈ actions, ¬ action.presses channel key)
    (longEnough : synth.pool.longestFade channel key ≤ totalFrames actions)
    {last : Voice}
    (member : last ∈ (synth.run actions).pool.voices)
    (onChannel : last.channel = channel)
    (onKey : last.key = key) :
    last.isFree := by
  apply Classical.byContradiction
  intro sounding
  obtain ⟨slot, present⟩ := List.mem_iff_getElem?.mp member
  have wanes :
      synth.pool.Wanes (playedBy channel key) (totalFrames actions)
        (synth.run actions).pool :=
    run_wanes wellFormed_invariant
      (fun action member _ _ =>
        spares_of_not_presses (notPressed action member) _)
      wellFormed wellFormed
  obtain ⟨voice, voicePresent, voiceSounding, sameOrigin, fades⟩ :=
    wanes slot last present sounding ⟨onChannel, onKey⟩
  have voiceMember := List.mem_of_getElem? voicePresent
  have voiceChannel : voice.channel = channel := by
    have same := congrArg (·.note.channel) sameOrigin
    exact same.trans onChannel
  have voiceKey : voice.key = key := by
    have same := congrArg (·.note.key) sameOrigin
    exact same.trans onKey
  have notHeld : ¬ voice.isHeld := by
    intro held
    apply noneHeld voice voiceMember
    simp [VoicePool.isHeldBy, held, voiceChannel, voiceKey]
  have releasing := Voice.releasing_of_not_held voiceSounding notHeld
  have released : VoicePool.isReleasedBy channel key voice := by
    simp [VoicePool.isReleasedBy, releasing, voiceChannel, voiceKey]
  have bounded := VoicePool.fadeLength_le_longestFade voiceMember released
  have left :=
    fades _
      ((wellFormed voice voiceMember).fadesWithin (counting voice voiceMember)
        releasing)
  have atLeastOne := left.envelope.pos
  omega

/--
At every point of a session the release of a key succeeds.  It leaves none of
the key's voices held, and every voice that the key has not held as it was.  If
the key is not pressed again, then none of its voices sounds once the longest of
their fades has been rendered, in calls of whatever sizes and with whatever
calls between them.  No call makes the fade of a released voice longer.
-/
theorem run_released_notes_end
    (configuration : SynthConfiguration)
    (actions : List Action)
    {channel key : Nat}
    (channelValid : channel < configuration.channels)
    (keyValid : key ≤ 127) :
    let synth := (Synth.new configuration).run actions
    let outcome := synth.noteOff channel key
    let released := outcome.synth
    outcome.result = .ok () ∧
      (∀ voice ∈ released.pool.voices,
        voice.channel = channel →
        voice.key = key →
        voice.state ≠ .attacking ∧ voice.state ≠ .sustaining) ∧
      released.pool.voices.length = synth.pool.voices.length ∧
      (∀ (slot : Nat) (voice : Voice),
        synth.pool.voices[slot]? = some voice →
        ¬ (voice.isHeld ∧ voice.channel = channel ∧ voice.key = key) →
        released.pool.voices[slot]? = some voice) ∧
      (∀ continuation : List Action,
        (∀ action ∈ continuation, ¬ action.presses channel key) →
        released.pool.longestFade channel key ≤ totalFrames continuation →
        ∀ voice ∈ (released.run continuation).pool.voices,
          voice.channel = channel →
          voice.key = key →
          voice.isFree) ∧
      ∀ (action : Action) (slot : Nat) (voice last : Voice),
        synth.pool.voices[slot]? = some voice →
        (synth.act action).pool.voices[slot]? = some last →
        voice.state = .releasing →
        last.state = .releasing →
        last.fadeLength ≤ voice.fadeLength := by
  intro synth outcome released
  have configured : synth.Configured configuration :=
    (Configured.invariant configuration).run actions
      (Configured.new configuration)
  have wellFormed : synth.pool.WellFormed :=
    wellFormed_invariant.run actions (wellFormed_new configuration)
  have counting : ∀ voice ∈ synth.pool.voices, voice.envelope.Counting :=
    Voice.counting_invariant.run configuration (fun releasing => by
      cases releasing) actions
  have isComplete :
      outcome = (synth.changePool (·.releaseKey channel key)).complete [] := by
    apply noteOff_eq _ keyValid
    rw [configured.sameConfiguration]
    exact channelValid
  have voices :
      released.pool.voices =
        (synth.pool.releaseKey channel key).voices := by
    change outcome.synth.pool.voices = _
    rw [isComplete]
    rfl
  have releasedWellFormed : released.pool.WellFormed := by
    intro voice member
    rw [voices] at member
    exact VoicePool.forall_changeWhere Voice.WellFormed
      Voice.WellFormed.release _ wellFormed voice member
  have releasedCounting :
      ∀ voice ∈ released.pool.voices, voice.envelope.Counting := by
    rw [voices]
    exact VoicePool.forall_changeWhere (fun voice => voice.envelope.Counting)
      Voice.counting_invariant.release _ counting
  have noneHeld :
      ∀ voice ∈ released.pool.voices,
        ¬ VoicePool.isHeldBy channel key voice := by
    intro voice member
    rw [voices] at member
    exact VoicePool.not_isHeldBy_of_releaseKey member
  refine ⟨by rw [isComplete]; rfl, ?_, ?_, ?_, ?_, ?_⟩
  · intro voice member onChannel onKey
    have notHeldBy := noneHeld voice member
    constructor <;> intro state <;>
      simp [VoicePool.isHeldBy, Voice.isHeld, state, onChannel, onKey]
        at notHeldBy
  · rw [voices]
    simp [VoicePool.releaseKey, VoicePool.changeWhere]
  · intro slot voice present other
    rw [voices]
    apply VoicePool.releaseKey_of_not_isHeldBy present
    simpa [VoicePool.isHeldBy, and_assoc] using other
  · intro continuation notPressed longEnough voice member onChannel onKey
    exact run_ends_released releasedWellFormed releasedCounting noneHeld
      notPressed longEnough member onChannel onKey
  · intro action slot voice last present lastPresent releasing lastReleasing
    have member := List.mem_of_getElem? present
    have fades :=
      (wellFormed voice member).fadesWithin (counting voice member) releasing
    exact (act_fades wellFormed action present lastPresent fades
      lastReleasing).envelope.within

end Synth

namespace Synth

open SharedEngine (clickBank soloConfiguration)

/-- A bank is loaded, and a key plays it. -/
def striking : List Action :=
  [.control (fun _ => .loaded clickBank) (.addBank clickBank true),
    .control (fun _ => .loaded clickBank) (.noteOn 0 60 100)]

/-- Sound, the unloading of the bank in the midst of it, and a louder volume. -/
def lingering : List Action :=
  [.render 20, .control (fun _ => .loaded clickBank) (.unload ⟨1⟩ true),
    .render 20, .control (fun _ => .loaded clickBank) (.controlChange 0 7 127),
    .renderSamples 4]

theorem struck_key_falls_silent :
    0 < soloConfiguration.channels ∧
      60 ≤ 127 ∧
      let released :=
        (((Synth.new soloConfiguration).run striking).noteOff 0 60).synth
      released.pool.states = [.releasing] ∧
        (∀ action ∈ lingering, ¬ action.presses 0 60) ∧
        released.pool.longestFade 0 60 = 44 ∧
        totalFrames lingering = 44 ∧
        ∀ voice ∈ (released.run lingering).pool.voices,
          voice.channel = 0 →
          voice.key = 60 →
          voice.isFree := by
  have channelValid : 0 < soloConfiguration.channels := by decide
  have keyValid : 60 ≤ 127 := by decide
  have notPressed : ∀ action ∈ lingering, ¬ action.presses 0 60 := by
    simp [lingering, Action.presses, Command.presses]
  have longest :
      (((Synth.new soloConfiguration).run striking).noteOff 0
        60).synth.pool.longestFade 0 60 = 44 := by
    decide +kernel
  have total : totalFrames lingering = 44 := by decide
  obtain ⟨-, -, -, -, ends, -⟩ :=
    run_released_notes_end soloConfiguration striking channelValid keyValid
  exact ⟨channelValid, keyValid, by decide +kernel, notPressed, longest, total,
    ends lingering notPressed (Nat.le_of_eq (longest.trans total.symm))⟩

end Synth

end Polyphony.Engine
