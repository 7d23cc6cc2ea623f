import Polyphony.Proofs.Buses
import Polyphony.Proofs.SteadyVoices

/-!
# Renderings that are split

Where all that is mixed is finite, a rendering sounds the same however it is
cut.  A voice that ends is freed at the end of its block, and until then it
adds zeros; the other voices are mixed sample by sample.
-/

namespace Polyphony.Engine

open Number
open Sound (Bus Cursor Interpolation Stereo panGains quarterPi toSample)

theorem Voice.length_samples
    (pool : Array Int16)
    (method : Interpolation)
    (step : Float)
    (count : Nat)
    (voice : Voice) :
    (voice.samples pool method step count).1.length = count := by
  induction count generalizing voice with
  | zero => rfl
  | succ count inductionHypothesis =>
      simp [samples, inductionHypothesis]

section

variable [Transcendental]

namespace Voice

/-! ## Gains -/

/-- The gains of a voice on both sides, with the mix of its channel. -/
def gains
    (mix : ChannelMix)
    (voice : Voice) :
    Stereo Float32 :=
  (panGains (voice.pan + mix.pan)).map fun gain =>
    voice.gain * mix.gain * gain

/-- A finite gain and a finite pan make finite gains on both sides. -/
theorem finite_gains
    {mix : ChannelMix}
    {voice : Voice}
    (lawful : Transcendental.Lawful)
    (bounded : mix.Bounded)
    (finiteGain : ∃ exact, Is voice.gain exact)
    (finitePan : ∃ exact, Is voice.pan exact) :
    (∃ exact, Is (voice.gains mix).left exact) ∧
      ∃ exact, Is (voice.gains mix).right exact := by
  obtain ⟨gain, isGain⟩ := finiteGain
  obtain ⟨pan, isPan⟩ := finitePan
  obtain ⟨mixGain, isMixGain, mixGainSmall⟩ :=
    within_zero_iff.mp bounded.gain.within
  obtain ⟨mixPan, isMixPan⟩ := bounded.pan.finite
  obtain ⟨amplitude, isAmplitude⟩ := isGain.exists_mul isMixGain mixGainSmall
  have placed := within_clamp (isPan.isNaN_add isMixPan)
  have isQuarter : Within 0 quarterPi :=
    within_of_parts
      (show FloatingPoint.unpack quarterPi =
        .finite .positive 13176795 (-24) (by decide) from rfl) (by norm_num)
  obtain ⟨angle, isAngle⟩ :=
    ((placed.add inUnit_one.within (by decide)).mul isQuarter
      (by decide)).finite
  obtain ⟨cosine, isCosine, cosineSmall⟩ :=
    within_zero_iff.mp (lawful.cosine isAngle)
  obtain ⟨sine, isSine, sineSmall⟩ := within_zero_iff.mp (lawful.sine isAngle)
  exact ⟨isAmplitude.exists_mul isCosine cosineSmall,
    isAmplitude.exists_mul isSine sineSmall⟩

/-! ## Blocks of one voice -/

/-- A voice that plays on with finite gains and a finite step on its channel. -/
structure Playing
    (mix : ChannelMix)
    (voice : Voice) : Prop where
  steady : voice.Steady
  step : ∃ distance, Is (voice.step mix.bend) distance ∧ 0 ≤ distance
  left : ∃ exact, Is (voice.gains mix).left exact
  right : ∃ exact, Is (voice.gains mix).right exact

/-- Sounding does not change the gains of a voice. -/
theorem gains_sounded
    (frames : Nat)
    (mix other : ChannelMix)
    (method : Interpolation)
    (voice : Voice) :
    (voice.sounded frames mix method).gains other = voice.gains other := by
  obtain ⟨state, envelope, cursor, shape⟩ :=
    voice.exists_sounded frames mix method
  rw [shape]
  rfl

theorem Playing.sounded
    {mix : ChannelMix}
    {voice : Voice}
    (playing : voice.Playing mix)
    (frames : Nat)
    (method : Interpolation) :
    (voice.sounded frames mix method).Playing mix := by
  have sameGains := voice.gains_sounded frames mix mix method
  obtain ⟨distance, isStep, forward⟩ := playing.step
  refine ⟨?_, ?_, ?_, ?_⟩
  · cases held : voice.source? with
    | none =>
        rw [sounded_of_unsourced held]
        exact playing.steady
    | some source =>
        rw [sounded_of_sourced held]
        exact (playing.steady.samples isStep forward _ method frames).settle
  · rw [step_sounded]
    exact ⟨distance, isStep, forward⟩
  · rw [sameGains]
    exact playing.left
  · rw [sameGains]
    exact playing.right

/-- A bus once a voice has been added to it, unless the voice is free. -/
def onto
    (frames : Nat)
    (channels : List Channel)
    (method : Interpolation)
    (bus : Bus)
    (voice : Voice) :
    Bus :=
  if voice.isFree then
    bus
  else
    (voice.render frames (VoicePool.mixFor channels voice) method bus).1

theorem onto_of_free
    {voice : Voice}
    (free : voice.isFree)
    (frames : Nat)
    (channels : List Channel)
    (method : Interpolation)
    (bus : Bus) :
    voice.onto frames channels method bus = bus :=
  if_pos free

theorem onto_of_unsourced
    {voice : Voice}
    (unsourced : voice.source? = none)
    (frames : Nat)
    (channels : List Channel)
    (method : Interpolation)
    (bus : Bus) :
    voice.onto frames channels method bus = bus := by
  simp [onto, render, unsourced]

theorem onto_of_sourced
    {voice : Voice}
    {source : BankReference}
    (sounding : ¬ voice.isFree)
    (held : voice.source? = some source)
    (frames : Nat)
    (channels : List Channel)
    (method : Interpolation)
    (bus : Bus) :
    voice.onto frames channels method bus =
      bus.add
        (voice.samples source.bank.samples method
          (voice.step (VoicePool.mixFor channels voice).bend) frames).1
        (voice.gains (VoicePool.mixFor channels voice)) := by
  simp [onto, render, sounding, held, gains]

theorem lasts_onto
    {frames : Nat}
    {bus : Bus}
    (lasts : bus.Lasts frames)
    (channels : List Channel)
    (method : Interpolation)
    (voice : Voice) :
    (voice.onto frames channels method bus).Lasts frames := by
  by_cases free : voice.isFree
  · rwa [onto_of_free free]
  · cases held : voice.source? with
    | none => rwa [onto_of_unsourced held]
    | some source =>
        rw [onto_of_sourced free held]
        exact lasts.add (length_samples _ method _ frames voice) _

/-- A voice without a bank adds nothing, whether it is freed or not. -/
theorem onto_blockEnd_of_unsourced
    {voice : Voice}
    (unsourced : voice.source? = none)
    (first second : Nat)
    (channels : List Channel)
    (method : Interpolation)
    (bus : Bus) :
    (voice.blockEnd first channels method).2.onto second channels method bus =
      bus := by
  unfold blockEnd
  rw [sounded_of_unsourced unsourced]
  split
  · exact onto_of_unsourced unsourced second channels method bus
  · dsimp only
    split
    · exact onto_of_free rfl second channels method bus
    · exact onto_of_unsourced unsourced second channels method bus

/--
What a voice adds after a block is what it would have added without an end of
the block: a voice that is freed there would have added zeros.
-/
theorem onto_blockEnd
    (first : Nat)
    {second : Nat}
    {channels : List Channel}
    (method : Interpolation)
    {bus : Bus}
    {voice : Voice}
    {source : BankReference}
    (sounding : ¬ voice.isFree)
    (held : voice.source? = some source)
    (playing : voice.Playing (VoicePool.mixFor channels voice))
    (lasts : bus.Lasts second) :
    let mix := VoicePool.mixFor channels voice
    let step := voice.step mix.bend
    let played := (voice.samples source.bank.samples method step first).2
    (bus.add (played.samples source.bank.samples method step second).1
        (voice.gains mix)).Same
      ((voice.blockEnd first channels method).2.onto second channels method
        bus) := by
  intro mix step played
  have isPlayed : voice.sounded first mix method = played.settle :=
    sounded_of_sourced held first mix method
  by_cases done : (voice.sounded first mix method).isDone
  · obtain ⟨distance, isStep, forward⟩ := playing.step
    have playedDone : played.isDone := by
      rwa [isPlayed, isDone_settle] at done
    have playedSteady : played.Steady :=
      playing.steady.samples isStep forward _ method first
    rw [blockEnd_of_done sounding done, onto_of_free rfl]
    exact .add_zeros lasts (length_samples _ method step second played)
      (playedSteady.samples_zero isStep forward playedDone _ method second)
      playing.left playing.right
  · have stillSounding : ¬ (voice.sounded first mix method).isFree := by
      rwa [isFree_sounded]
    have stillHeld : (voice.sounded first mix method).source? = some source := by
      rwa [source?_sounded]
    rw [blockEnd_of_not_done sounding done,
      onto_of_sourced stillSounding stillHeld,
      mixFor_sounded first mix method channels voice, gains_sounded,
      step_sounded, isPlayed, (samples_settle _ method step second played).1]
    exact .refl _

/-- Adding a voice in one part is adding it in two. -/
theorem onto_add
    {first second : Nat}
    {channels : List Channel}
    (method : Interpolation)
    {whole early late : Bus}
    {voice : Voice}
    (playing :
      ¬ voice.isFree →
      voice.Playing (VoicePool.mixFor channels voice))
    (earlyLasts : early.Lasts first)
    (lateLasts : late.Lasts second)
    (same : whole.Same (early.append late)) :
    (voice.onto (first + second) channels method whole).Same
      ((voice.onto first channels method early).append
        ((voice.blockEnd first channels method).2.onto second channels method
          late)) := by
  by_cases free : voice.isFree
  · rw [blockEnd_of_free free, onto_of_free free, onto_of_free free,
      onto_of_free free]
    exact same
  · cases held : voice.source? with
    | none =>
        rw [onto_blockEnd_of_unsourced held, onto_of_unsourced held,
          onto_of_unsourced held]
        exact same
    | some source =>
        have later := onto_blockEnd first method free held (playing free) lateLasts
        rw [onto_of_sourced free held, onto_of_sourced free held, samples_add]
        refine (same.add _ _).trans ?_
        rw [Bus.add_append earlyLasts (length_samples _ method _ first voice)]
        exact .append (.refl _) later

theorem Playing.blockEnd
    {frames : Nat}
    {channels : List Channel}
    {method : Interpolation}
    {voice : Voice}
    (playing :
      ¬ voice.isFree →
      voice.Playing (VoicePool.mixFor channels voice))
    (stillSounding : ¬ (voice.blockEnd frames channels method).2.isFree) :
    (voice.blockEnd frames channels method).2.Playing
      (VoicePool.mixFor channels (voice.blockEnd frames channels method).2) := by
  by_cases free : voice.isFree
  · rw [blockEnd_of_free free] at stillSounding
    exact absurd free stillSounding
  · by_cases done :
      (voice.sounded frames (VoicePool.mixFor channels voice) method).isDone
    · rw [blockEnd_of_done free done] at stillSounding
      exact absurd rfl stillSounding
    · rw [blockEnd_of_not_done free done, mixFor_sounded]
      exact (playing free).sounded frames method

end Voice

/-! ## Blocks of all voices -/

namespace VoicePool

/-- The bus of some voices is what each of them in turn adds to it. -/
theorem renderVoices_bus
    (frames : Nat)
    (channels : List Channel)
    (method : Interpolation)
    (mixdown : Mixdown)
    (voices : List Voice) :
    (renderVoices frames channels method mixdown voices).1.bus =
      voices.foldl (fun bus voice => voice.onto frames channels method bus)
        mixdown.bus := by
  induction voices generalizing mixdown with
  | nil => rfl
  | cons voice rest inductionHypothesis =>
      have first :
          (renderVoice frames channels method mixdown voice).1.bus =
            voice.onto frames channels method mixdown.bus := by
        unfold renderVoice Voice.onto
        split
        · rfl
        · dsimp only
          split <;> rfl
      simp only [renderVoices, List.foldl_cons]
      rw [inductionHypothesis, first]

theorem lasts_foldl_onto
    {frames : Nat}
    {bus : Bus}
    (lasts : bus.Lasts frames)
    (channels : List Channel)
    (method : Interpolation)
    (voices : List Voice) :
    (voices.foldl (fun bus voice => voice.onto frames channels method bus)
      bus).Lasts frames := by
  induction voices generalizing bus with
  | nil => exact lasts
  | cons voice rest inductionHypothesis =>
      exact inductionHypothesis
        (Voice.lasts_onto lasts channels method voice)

/-- A bus in two parts takes from each voice what the whole bus takes. -/
theorem foldl_onto_add
    {first second : Nat}
    {channels : List Channel}
    (method : Interpolation)
    {voices : List Voice}
    (playing :
      ∀ voice ∈ voices,
        ¬ voice.isFree →
        voice.Playing (mixFor channels voice))
    {whole early late : Bus}
    (earlyLasts : early.Lasts first)
    (lateLasts : late.Lasts second)
    (same : whole.Same (early.append late)) :
    let after := voices.map fun voice => (voice.blockEnd first channels method).2
    let onEarly :=
      voices.foldl (fun bus voice => voice.onto first channels method bus) early
    let onLate :=
      after.foldl (fun bus voice => voice.onto second channels method bus) late
    (voices.foldl
        (fun bus voice => voice.onto (first + second) channels method bus)
        whole).Same (onEarly.append onLate) := by
  induction voices generalizing whole early late with
  | nil => exact same
  | cons voice rest inductionHypothesis =>
      have added :=
        Voice.onto_add method (playing voice List.mem_cons_self) earlyLasts
          lateLasts same
      exact inductionHypothesis
        (fun other member => playing other (List.mem_cons_of_mem voice member))
        (Voice.lasts_onto earlyLasts channels method voice)
        (Voice.lasts_onto lateLasts channels method _)
        added

end VoicePool

namespace Synth

/-- What all sounding voices of the synthesizer mix is finite. -/
def Playing (synth : Synth) : Prop :=
  ∀ voice ∈ synth.pool.voices,
    ¬ voice.isFree →
    voice.Playing (VoicePool.mixFor synth.channels voice)

theorem Playing.renderBlock
    {synth : Synth}
    (playing : synth.Playing)
    (frames : Nat) :
    (synth.renderBlock frames).2.Playing := by
  intro voice member stillSounding
  rw [renderBlock_eq, VoicePool.render_eq] at member
  obtain ⟨old, oldMember, isVoice⟩ := List.mem_map.mp member
  subst voice
  exact Voice.Playing.blockEnd (playing old oldMember) stillSounding

/-- The frames of a block are what its voices have added to a silent bus. -/
theorem renderBlock_frames
    (frames : Nat)
    (synth : Synth) :
    (synth.renderBlock frames).1 =
      Bus.output synth.configuration.gain
        (synth.pool.voices.foldl
          (fun bus voice =>
            voice.onto frames synth.channels synth.configuration.interpolation
              bus)
          (.silent frames)) := by
  rw [← VoicePool.renderVoices_bus frames synth.channels
    synth.configuration.interpolation ⟨.silent frames, synth.pool.retired⟩]
  rfl

theorem length_renderBlock
    (frames : Nat)
    (synth : Synth) :
    (synth.renderBlock frames).1.length = frames := by
  rw [renderBlock_frames]
  exact Bus.length_output
    (VoicePool.lasts_foldl_onto (Bus.lasts_silent frames) _ _ _) _

/-- A block in two parts sounds the same as in one. -/
theorem renderBlock_add
    {synth : Synth}
    (playing : synth.Playing)
    (first second : Nat) :
    (synth.renderBlock (first + second)).1 =
      (synth.renderBlock first).1 ++
        ((synth.renderBlock first).2.renderBlock second).1 := by
  have silence := Bus.Same.refl (.silent (first + second))
  rw [Bus.silent_add] at silence
  have same :=
    VoicePool.foldl_onto_add synth.configuration.interpolation playing
      (Bus.lasts_silent first) (Bus.lasts_silent second) silence
  have earlyLasts :=
    VoicePool.lasts_foldl_onto (Bus.lasts_silent first) synth.channels
      synth.configuration.interpolation synth.pool.voices
  rw [renderBlock_frames, renderBlock_frames, renderBlock_frames,
    renderBlock_eq, VoicePool.render_eq, Bus.silent_add, same.output_eq,
    Bus.output_append earlyLasts]

/-- However a number of frames is cut into blocks, it sounds the same. -/
theorem renderBlocks_frames
    {synth : Synth}
    (playing : synth.Playing)
    (sizes : List Nat) :
    (synth.renderBlocks sizes).1 = (synth.renderBlock sizes.sum).1 := by
  induction sizes generalizing synth with
  | nil =>
      exact (List.eq_nil_of_length_eq_zero (length_renderBlock 0 synth)).symm
  | cons frames rest inductionHypothesis =>
      rw [List.sum_cons, renderBlock_add playing,
        ← inductionHypothesis (playing.renderBlock frames)]
      rfl

/-- Frames that are rendered in two calls are those that one call renders. -/
theorem render_add_frames
    {synth : Synth}
    (playing : synth.Playing)
    (first second : Nat) :
    (synth.render (first + second)).1 =
      (synth.render first).1 ++ ((synth.render first).2.render second).1 := by
  have inTwoCalls :
      (synth.render first).1 ++ ((synth.render first).2.render second).1 =
        (synth.renderBlocks (blockSizes first ++ blockSizes second)).1 := by
    rw [renderBlocks_append]
    rfl
  rw [inTwoCalls, render, renderBlocks_frames playing,
    renderBlocks_frames playing, List.sum_append, sum_blockSizes,
    sum_blockSizes, sum_blockSizes]

end Synth

/-! ## Sessions -/

namespace Voice

/--
The gain, the pan and the step of a voice are finite, and so is its position
for as long as its recording plays, whose loop has a length.
-/
structure Finite
    (mix : ChannelMix)
    (voice : Voice) : Prop where
  gain : voice.gain.isFinite
  pan : voice.pan.isFinite
  step : (voice.step mix.bend).isFinite
  position :
    voice.cursor.finished = false →
    voice.cursor.position.isFinite
  apart : voice.cursor.Apart
  short : voice.cursor.stop ≤ Cursor.longest

instance (mix : ChannelMix) (voice : Voice) : Decidable (voice.Finite mix) :=
  decidable_of_iff
    (voice.gain.isFinite ∧
      voice.pan.isFinite ∧
      (voice.step mix.bend).isFinite ∧
      (voice.cursor.finished = false → voice.cursor.position.isFinite) ∧
      voice.cursor.Apart ∧
      voice.cursor.stop ≤ Cursor.longest)
    ⟨fun ⟨gain, pan, step, position, apart, short⟩ =>
        ⟨gain, pan, step, position, apart, short⟩,
      fun finite =>
        ⟨finite.gain, finite.pan, finite.step, finite.position, finite.apart,
          finite.short⟩⟩

/-- What a finite voice of a session mixes is finite, and stays so. -/
theorem Finite.playing
    {outputRate : Float32}
    {mix : ChannelMix}
    {voice : Voice}
    (finite : voice.Finite mix)
    (lawful : Transcendental.Lawful)
    (tracked : voice.Tracked outputRate)
    (bounded : mix.Bounded) :
    voice.Playing mix := by
  have framed := tracked.cursor finite.short
  obtain ⟨distance, isStep⟩ := Double.isFinite_iff.mp finite.step
  obtain ⟨left, right⟩ :=
    finite_gains lawful bounded (Single.isFinite_iff.mp finite.gain)
      (Single.isFinite_iff.mp finite.pan)
  exact {
    steady := {
      short := finite.short
      framed := framed
      apart := finite.apart
      located := fun unfinished =>
        framed.inside unfinished
          (Double.isFinite_iff.mp (finite.position unfinished))
      envelope := tracked.envelope
    }
    step := ⟨distance, isStep, tracked.step lawful mix.bend distance isStep⟩
    left := left
    right := right
  }

end Voice

namespace Synth

/-- What every sounding voice of the synthesizer plays is finite. -/
def Finite (synth : Synth) : Prop :=
  ∀ voice ∈ synth.pool.voices,
    ¬ voice.isFree →
    voice.Finite (VoicePool.mixFor synth.channels voice)

instance (synth : Synth) : Decidable synth.Finite :=
  inferInstanceAs (Decidable (∀ voice ∈ synth.pool.voices, _))

/-- Any blocks at all leave what the blocks of one render call leave. -/
theorem render_alike_of_sizes
    {configuration : SynthConfiguration}
    {synth : Synth}
    (roomy : synth.pool.Roomy configuration 0)
    {frames : Nat}
    {sizes : List Nat}
    (positive : ∀ size ∈ sizes, 0 < size)
    (sameFrames : sizes.sum = frames) :
    (synth.render frames).2.Alike (synth.renderBlocks sizes).2 := by
  subst frames
  cases sizes with
  | nil => exact .refl _
  | cons size rest =>
      have some : 1 ≤ (size :: rest).sum := by
        rw [List.sum_cons]
        exact Nat.le_add_right_of_le (positive size List.mem_cons_self)
      exact renderBlocks_alike roomy (blockSizes_ne_nil some)
        (List.cons_ne_nil size rest) (sum_blockSizes _)

/--
At every point of every session, frames that are rendered in two calls, or in
blocks of any sizes, leave what one call for all of them leaves, but for what
free voices remember and for the order of parked references.  They are also the
same frames, if what all sounding voices play is finite.
-/
theorem run_rendering_splits
    {settings : Settings}
    {configuration : SynthConfiguration}
    (accepted : SynthConfiguration.ofSettings settings = .ok configuration)
    (actions : List Action)
    (first second : Nat) :
    let synth := (Synth.new configuration).run actions
    let whole := synth.render (first + second)
    let earlier := synth.render first
    let later := earlier.2.render second
    (whole.2.Alike later.2 ∧
        ∀ sizes : List Nat,
          (∀ size ∈ sizes, 0 < size) →
          sizes.sum = first + second →
          whole.2.Alike (synth.renderBlocks sizes).2) ∧
      (Transcendental.Lawful →
        synth.Finite →
        whole.1 = earlier.1 ++ later.1 ∧
          ∀ sizes : List Nat,
            sizes.sum = first + second →
            whole.1 = (synth.renderBlocks sizes).1) := by
  intro synth whole earlier later
  have roomy : synth.pool.Roomy configuration 0 :=
    run_roomy configuration actions
  refine ⟨⟨render_add_alike roomy first second, fun sizes =>
    render_alike_of_sizes roomy⟩, ?_⟩
  intro lawful finite
  obtain ⟨rate, isRate, positive⟩ :=
    SynthConfiguration.exists_is_sampleRate accepted
  have tracked :=
    (Voice.Tracked.invariant lawful isRate positive).run configuration
      (.new configuration.sampleRate) actions
  have sevenBit :=
    Channel.SevenBit.invariant.run configuration Channel.SevenBit.new actions
  have playing : synth.Playing := by
    intro voice member sounding
    exact (finite voice member sounding).playing lawful (tracked voice member)
      (VoicePool.bounded_mixFor sevenBit voice)
  refine ⟨render_add_frames playing first second, ?_⟩
  intro sizes sameFrames
  have inBlocks := renderBlocks_frames playing sizes
  have inOneCall := renderBlocks_frames playing (blockSizes (first + second))
  rw [sameFrames] at inBlocks
  rw [sum_blockSizes] at inOneCall
  exact inOneCall.trans inBlocks.symm

end Synth

end

/-! ## Two sessions -/

/--
The values of a mathematical library at the few arguments of the sessions below:
the middle of the pan, no attenuation, and the powers 0, 1023.83 and 1024.
-/
abbrev tabledFunctions : Transcendental where
  sine := fun _ => .ofBits 0x3F3504F3
  cosine := fun _ => .ofBits 0x3F3504F3
  power := fun _ _ => 1
  exponential := fun power =>
    if 1024 ≤ power then
      .ofBits 0x7FF0000000000000
    else if 1 ≤ power then
      .ofBits 0x7FEC823E074EC1FC
    else
      1

theorem lawful_tabledFunctions :
    let _ : Transcendental := tabledFunctions
    Transcendental.Lawful := by
  intro _
  have within : Within 0 (Float32.ofBits 0x3F3504F3) :=
    within_of_parts
      (show FloatingPoint.unpack (Float32.ofBits 0x3F3504F3) =
        .finite .positive 11863283 (-24) (by decide) from rfl) (by norm_num)
  refine ⟨fun _ => within, fun _ => within, ?_⟩
  intro power
  change NotNegative
    (if (1024 : Float) ≤ power then
      Float.ofBits 0x7FF0000000000000
    else if 1 ≤ power then
      Float.ofBits 0x7FEC823E074EC1FC
    else
      1)
  split
  · intro exact isExact
    cases isExact
  · split
    · intro exact isExact
      have isGreat :=
        is_of_unpack
          (show FloatingPoint.unpack (Float.ofBits 0x7FEC823E074EC1FC) =
            .finite .positive 8024502270083580 971 (by decide) from rfl)
      rw [isExact.unique isGreat, signed_positive]
      positivity
    · exact Double.notNegative_ofNat 1

namespace Synth

open Instrument (Bank Zone)
open Sound (EnvelopeParameters)

/-- Two channels, and two voices. -/
def pairSettings : Settings :=
  ⟨[(SettingName.midiChannels, .integer 2), (SettingName.polyphony, .integer 2)]⟩

/-- The configuration of these settings. -/
def pairConfiguration : SynthConfiguration where
  sampleRate := 44100
  channels := 2
  polyphony := 2
  gain := Number.narrow 0.2
  maxBanks := 16
  interpolation := .linear

theorem accepted_pairConfiguration :
    SynthConfiguration.ofSettings pairSettings = .ok pairConfiguration := by
  decide +kernel

/-- A steady sound that starts and ends at once, looped for as long as it is heard. -/
def hum (key : Nat) (tuning : Float32) : Zone :=
  { Zone.playing (.spanning 0 4 44100) with
    keys := ⟨key, key⟩
    rootKey := key
    tuning := tuning
    loopMode := .continuous
    envelope := .adsr 0 0 1 0 }

/-- A hum that is a thousand octaves too high, and one as it is. -/
def humBank : Bank where
  name := "hum"
  samples := #[20000, 20000, 20000, 20000]
  presets := [⟨"hum", 0, 0, [hum 60 1228800, hum 61 0]⟩]
  faultFree := by decide

/--
The high hum loses its position in the first frame, gets a finite step by a bend
of its channel, and ends as its key is released; the other one sounds on.
-/
def bending : List Action :=
  [.control (fun _ => .loaded humBank) (.addBank humBank true),
    .control (fun _ => .loaded humBank) (.noteOn 0 60 100),
    .control (fun _ => .loaded humBank) (.noteOn 1 61 100),
    .render 1,
    .control (fun _ => .loaded humBank) (.pitchBend 0 0),
    .control (fun _ => .loaded humBank) (.noteOff 0 60)]

/-- The synthesizer after that session. -/
def bent : Synth :=
  let _ : Transcendental := tabledFunctions
  (Synth.new pairConfiguration).run bending

/--
Finite gains, pans and steps are not enough: a voice that has ended, and whose
position was lost before, silences others until its block ends.
-/
theorem lost_position_silences_others :
    let _ : Transcendental := tabledFunctions
    SynthConfiguration.ofSettings pairSettings = .ok pairConfiguration ∧
      bent = (Synth.new pairConfiguration).run bending ∧
      (∀ voice ∈ bent.pool.voices,
        ¬ voice.isFree →
        voice.gain.isFinite ∧
          voice.pan.isFinite ∧
          (voice.step
            (VoicePool.mixFor bent.channels voice).bend).isFinite) ∧
      (bent.render 2).1 ≠
        (bent.render 1).1 ++ ((bent.render 1).2.render 1).1 := by
  refine ⟨accepted_pairConfiguration, rfl, ?_, ?_⟩
  · decide +kernel
  · decide +kernel

/-- Two hums at the same pitch, one of which ends with its key. -/
def humming : List Action :=
  [.control (fun _ => .loaded humBank) (.addBank humBank true),
    .control (fun _ => .loaded humBank) (.noteOn 0 61 100),
    .control (fun _ => .loaded humBank) (.noteOn 1 61 100),
    .render 1,
    .control (fun _ => .loaded humBank) (.noteOff 0 61)]

theorem hum_splits :
    let _ : Transcendental := tabledFunctions
    let synth := (Synth.new pairConfiguration).run humming
    SynthConfiguration.ofSettings pairSettings = .ok pairConfiguration ∧
      Transcendental.Lawful ∧
      synth.Finite ∧
      synth.pool.states = [.releasing, .sustaining] ∧
      (synth.render 2).1 =
        (synth.render 1).1 ++ ((synth.render 1).2.render 1).1 := by
  intro _ synth
  have finite : synth.Finite := by decide +kernel
  obtain ⟨-, sameFrames⟩ :=
    run_rendering_splits accepted_pairConfiguration humming 1 1
  exact ⟨accepted_pairConfiguration, lawful_tabledFunctions, finite,
    by decide +kernel, (sameFrames lawful_tabledFunctions finite).1⟩

end Synth

end Polyphony.Engine
