import Polyphony.Proofs.ChannelCourse
import Polyphony.Proofs.Number.Operands

namespace Polyphony.Engine

/-!
# What channels do to their voices

Channels are bound, and their controllers are moved, and nothing else is ever
done to them.  No controller leaves the range of seven bits, so the gain of a
channel lies between silence and full, and its pan between the two sides.
-/

open Number
open Number.FloatingPoint (spec)

namespace Channel

/-! ## What every channel keeps -/

/-- A property that everything that is done to a channel keeps. -/
structure Invariant (holds : Channel → Prop) : Prop where
  bind :
    ∀ (bankNumber program : Nat) (binding : Binding) {channel : Channel},
      holds channel →
      holds
        { channel with
          bankNumber := bankNumber
          program := program
          binding := binding }
  setController :
    ∀ (number value : Nat) {channel : Channel},
      holds channel →
      holds (channel.setController number value)
  resetControllers :
    ∀ {channel : Channel},
      holds channel →
      holds channel.resetControllers
  setPitchBend :
    ∀ (value : Nat) {channel : Channel},
      holds channel →
      holds (channel.setPitchBend value)

namespace Invariant

variable {holds : Channel → Prop}

theorem offered
    (invariant : Invariant holds)
    (entry : BankReference)
    {channel : Channel}
    (before : holds channel) :
    holds (channel.offered entry) := by
  unfold Channel.offered
  split
  · unfold offer
    split
    · exact invariant.bind _ _ _ before
    · exact before
  · exact before

theorem bereft
    (invariant : Invariant holds)
    (id : Instrument.BankId)
    (updatePresets : Bool)
    (remaining : BankTable)
    {channel : Channel}
    (before : holds channel) :
    holds (channel.bereft id updatePresets remaining) := by
  unfold Channel.bereft
  split
  · exact invariant.bind _ _ _ before
  · exact before

theorem asked
    (invariant : Invariant holds)
    (id : Instrument.BankId)
    (bankNumber program : Nat)
    (banks : BankTable)
    {channel : Channel}
    (before : holds channel) :
    holds (channel.asked id bankNumber program banks) := by
  unfold Channel.asked
  split
  · exact invariant.bind _ _ _ before
  · exact before

theorem reprogrammed
    (invariant : Invariant holds)
    (program : Nat)
    (banks : BankTable)
    {channel : Channel}
    (before : holds channel) :
    holds (channel.reprogrammed program banks) := by
  unfold Channel.reprogrammed
  split
  · exact invariant.bind _ _ _ before
  · have renumbered : holds (channel.setProgram program) :=
      invariant.bind channel.bankNumber program channel.binding before
    exact invariant.bind _ _ _ renumbered

theorem controlled
    (invariant : Invariant holds)
    (controller value : Nat)
    {channel : Channel}
    (before : holds channel) :
    holds (channel.controlled controller value) := by
  unfold Channel.controlled
  split
  · exact before
  · split
    · exact invariant.resetControllers before
    · exact invariant.setController controller value before

/-- What every channel keeps, a mutation keeps of one. -/
theorem channelAfter
    (invariant : Invariant holds)
    (banks : BankTable)
    (mutation : Mutation)
    (number : Nat)
    {channel : Channel}
    (before : holds channel) :
    holds (mutation.channelAfter banks number channel) := by
  cases mutation with
  | publish bank updatePresets =>
      cases updatePresets with
      | false => exact before
      | true =>
          cases inserted : banks.insert bank with
          | error error => simpa only [Mutation.channelAfter, inserted]
          | ok result =>
              simp only [Mutation.channelAfter, inserted]
              exact invariant.offered _ before
  | withdraw id updatePresets =>
      cases removed : banks.remove? id with
      | none => simpa only [Mutation.channelAfter, removed]
      | some result =>
          simp only [Mutation.channelAfter, removed]
          exact invariant.bereft id updatePresets _ before
  | selectProgram changed id bankNumber program =>
      simp only [Mutation.channelAfter]
      split
      · exact invariant.asked id bankNumber program banks before
      · exact before
  | changeProgram changed program =>
      simp only [Mutation.channelAfter]
      split
      · exact invariant.reprogrammed program banks before
      · exact before
  | startNote channel key velocity => exact before
  | releaseKey channel key => exact before
  | releaseChannel channel? => exact before
  | forceReleaseChannel channel? => exact before
  | applyController changed controller value =>
      simp only [Mutation.channelAfter]
      split
      · exact invariant.controlled controller value before
      · exact before
  | bendPitch changed value =>
      simp only [Mutation.channelAfter]
      split
      · exact invariant.setPitchBend value before
      · exact before

variable [Transcendental]

/-- What every channel keeps, a mutation keeps of all channels. -/
theorem mutation
    (invariant : Invariant holds)
    (mutation : Mutation)
    {synth : Synth}
    (before : ∀ channel ∈ synth.channels, holds channel) :
    ∀ channel ∈ (mutation.apply synth).channels, holds channel := by
  intro channel member
  obtain ⟨number, present⟩ := List.mem_iff_getElem?.mp member
  rw [mutation.channels_apply, Option.map_eq_some_iff] at present
  obtain ⟨old, oldPresent, rfl⟩ := present
  exact invariant.channelAfter synth.banks mutation number
    (before old (List.mem_of_getElem? oldPresent))

/-- What every channel keeps, a synthesizer keeps of all of its channels. -/
theorem synth
    (invariant : Invariant holds) :
    Synth.Invariant fun synth => ∀ channel ∈ synth.channels, holds channel where
  mutation := fun mutation _ before => invariant.mutation mutation before
  drops := fun _ before => before
  block := fun _ _ before => before

/-- What new channels have and every channel keeps, all of a session have. -/
theorem run
    (invariant : Invariant holds)
    (configuration : SynthConfiguration)
    (initially : ∀ index : Nat, holds (.new index))
    (actions : List Action) :
    ∀ channel ∈ ((Synth.new configuration).run actions).channels,
      holds channel := by
  apply invariant.synth.run actions
  intro channel member
  obtain ⟨index, -, isChannel⟩ := List.mem_map.mp member
  rw [← isChannel]
  exact initially index

end Invariant

/-! ## Controllers within their range -/

/-- No controller has a value of more than seven bits. -/
def SevenBit (channel : Channel) : Prop :=
  ∀ number : Nat, channel.controller number ≤ 127

theorem controller_storeController
    (number value other : Nat)
    (channel : Channel) :
    (channel.storeController number value).controller other =
      if number % 128 = other % 128 then
        value % 128
      else
        channel.controller other := by
  have inside : number % 128 < 128 := Nat.mod_lt number (by decide)
  have otherInside : other % 128 < 128 := Nat.mod_lt other (by decide)
  exact Vector.getElem_set inside otherInside

namespace SevenBit

variable {channel : Channel}

theorem storeController
    (sevenBit : channel.SevenBit)
    (number value : Nat) :
    (channel.storeController number value).SevenBit := by
  intro other
  rw [controller_storeController]
  split
  · omega
  · exact sevenBit other

theorem resetControllers (sevenBit : channel.SevenBit) :
    channel.resetControllers.SevenBit :=
  ((sevenBit.storeController _ _).storeController _ _).storeController _ _

theorem new (index : Nat) :
    (Channel.new index).SevenBit := by
  apply resetControllers
  intro number
  have inside : number % 128 < 128 := Nat.mod_lt number (by decide)
  have isZero : (Vector.replicate 128 0)[number % 128] = 0 :=
    Vector.getElem_replicate inside
  exact isZero.trans_le (Nat.zero_le 127)

theorem invariant : Channel.Invariant SevenBit where
  bind := fun _ _ _ _ sevenBit => sevenBit
  setController := by
    intro number value channel sevenBit
    have stored := sevenBit.storeController number value
    unfold Channel.setController
    split
    · exact stored
    · exact stored
  resetControllers := resetControllers
  setPitchBend := fun _ _ sevenBit => sevenBit

end SevenBit

/-! ## Gains and pans -/

theorem inUnit_fraction
    {value : Nat}
    (small : value ≤ 127) :
    InUnit (Float32.ofNat value / 127) := by
  have isValue : Is (Float32.ofNat value) value :=
    Single.is_ofNat_of_le (by omega)
  have isWhole : Is (127 : Float32) (127 : ℕ) :=
    Single.is_ofNat_of_le (by decide)
  have nonneg : (0 : ℚ) ≤ value / (127 : ℕ) := by positivity
  have atMost : |(value / (127 : ℕ) : ℚ)| ≤ 2 ^ 0 := by
    rw [abs_of_nonneg nonneg, pow_zero, div_le_one (by norm_num)]
    exact_mod_cast small
  have isFraction :=
    isValue.div isWhole (by norm_num)
      (atMost.trans (two_pow_le_limit (by decide)))
  exact ⟨_, isFraction, rounded_nonneg nonneg,
    (abs_le.mp ((Representable.two_pow 0).abs_rounded_le atMost)).2⟩

theorem SevenBit.inUnit_gain
    {channel : Channel}
    (sevenBit : channel.SevenBit) :
    InUnit channel.mix.gain := by
  have volume := inUnit_fraction (sevenBit Controller.volume)
  have expression := inUnit_fraction (sevenBit Controller.expression)
  exact ((volume.mul volume).mul expression).mul expression

theorem SevenBit.within_pan
    {channel : Channel}
    (sevenBit : channel.SevenBit) :
    Within 0 channel.mix.pan := by
  have small := sevenBit Controller.pan
  have isValue :
      Within 7 (Float32.ofNat (channel.controller Controller.pan)) := by
    refine ⟨_, Single.is_ofNat_of_le (by omega), ?_⟩
    rw [Nat.abs_cast]
    exact_mod_cast small.trans (by decide)
  have isCentre : Within 7 (64 : Float32) := by
    have isNat : Is (64 : Float32) (64 : ℕ) :=
      Single.is_ofNat_of_le (by decide)
    exact ⟨_, isNat, by norm_num⟩
  have isSide : Is (63 : Float32) (63 : ℕ) :=
    Single.is_ofNat_of_le (by decide)
  obtain ⟨distance, isDistance, near⟩ := isValue.sub isCentre (by decide)
  have quotient : |distance / (63 : ℕ)| ≤ limit (spec Float32) := by
    have shorter : |distance / (63 : ℕ)| ≤ |distance| := by
      rw [abs_div, Nat.abs_cast]
      exact div_le_self (abs_nonneg distance) (by norm_num)
    exact shorter.trans (near.trans (two_pow_le_limit (by decide)))
  have isPosition := isDistance.div isSide (by norm_num) quotient
  exact within_clamp isPosition.isNaN

end Channel

namespace ChannelMix

/-- The gain lies between silence and full, and the pan between the sides. -/
structure Bounded (mix : ChannelMix) : Prop where
  gain : InUnit mix.gain
  pan : Within 0 mix.pan

theorem bounded_silent : silent.Bounded where
  gain := inUnit_zero
  pan := inUnit_zero.within

end ChannelMix

/-- Whatever channel a voice is on, its mix is bounded. -/
theorem VoicePool.bounded_mixFor
    {channels : List Channel}
    (sevenBit : ∀ channel ∈ channels, channel.SevenBit)
    (voice : Voice) :
    (mixFor channels voice).Bounded := by
  unfold mixFor
  cases present : channels[voice.channel]? with
  | none => exact ChannelMix.bounded_silent
  | some channel =>
      have inRange := sevenBit channel (List.mem_of_getElem? present)
      exact ⟨inRange.inUnit_gain, inRange.within_pan⟩

end Polyphony.Engine
