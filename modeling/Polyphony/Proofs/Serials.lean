import Polyphony.Proofs.Splitting

namespace Polyphony.Engine

/-!
# Serial numbers

Every note takes the next serial number, and its voices keep it for as long as
they sound and beyond.  So the serial of a note is larger than those of all
notes before it.  Only voices that have never sounded share theirs, zero, with
the first note.
-/

open Instrument (Zone)
open Number (Transcendental)
open Sound (Interpolation)

namespace Voice

/-- The voice has sounded a note of a smaller serial, or has never sounded. -/
def NumberedBelow
    (bound : Nat)
    (voice : Voice) : Prop :=
  voice.serial < bound ∨ voice.isFree ∧ voice.serial = 0

namespace NumberedBelow

variable {bound : Nat} {voice : Voice}

/-- A voice that sounds has a serial below the bound. -/
theorem serial_lt
    (numbered : voice.NumberedBelow bound)
    (sounding : ¬ voice.isFree) :
    voice.serial < bound := by
  rcases numbered with below | ⟨free, -⟩
  · exact below
  · exact absurd free sounding

/-- After the first note, all serials are below that of the next. -/
theorem serial_lt_of_pos
    (numbered : voice.NumberedBelow bound)
    (positive : 0 < bound) :
    voice.serial < bound := by
  rcases numbered with below | ⟨-, zero⟩
  · exact below
  · exact zero ▸ positive

theorem mono
    {larger : Nat}
    (numbered : voice.NumberedBelow bound)
    (wider : bound ≤ larger) :
    voice.NumberedBelow larger :=
  numbered.imp_left fun below => Nat.lt_of_lt_of_le below wider

/-- What keeps the serial of a voice and leaves it sounding keeps it numbered. -/
theorem of_serial_eq
    {after : Voice}
    (numbered : voice.NumberedBelow bound)
    (sameSerial : after.serial = voice.serial)
    (staysFree : voice.isFree → after.isFree) :
    after.NumberedBelow bound := by
  rcases numbered with below | ⟨free, zero⟩
  · exact .inl (sameSerial ▸ below)
  · exact .inr ⟨staysFree free, sameSerial.trans zero⟩

theorem free (numbered : voice.NumberedBelow bound) :
    voice.free.2.NumberedBelow bound :=
  numbered.of_serial_eq rfl fun _ => rfl

theorem release (numbered : voice.NumberedBelow bound) :
    voice.release.NumberedBelow bound :=
  numbered.of_serial_eq
    (congrArg (·.note.serial) voice.origin_release)
    (fun free => voice.isFree_release.trans free)

theorem forceRelease
    (numbered : voice.NumberedBelow bound)
    (seconds : Float32) :
    (voice.forceRelease seconds).NumberedBelow bound :=
  numbered.of_serial_eq
    (congrArg (·.note.serial) (voice.origin_forceRelease seconds))
    (fun free => (voice.isFree_forceRelease seconds).trans free)

variable [Transcendental]

theorem start
    {note : Note}
    (below : note.serial < bound)
    (source : BankReference)
    (zone : Zone)
    (voice : Voice) :
    (voice.start note source zone).NumberedBelow bound :=
  .inl below

theorem sounded
    (numbered : voice.NumberedBelow bound)
    (frames : Nat)
    (mix : ChannelMix)
    (method : Interpolation) :
    (voice.sounded frames mix method).NumberedBelow bound :=
  numbered.of_serial_eq
    (congrArg (·.note.serial) (origin_sounded frames mix method voice))
    (fun free => (isFree_sounded frames mix method voice).trans free)

theorem blockEnd
    (numbered : voice.NumberedBelow bound)
    (frames : Nat)
    (channels : List Channel)
    (method : Interpolation) :
    (voice.blockEnd frames channels method).2.NumberedBelow bound := by
  have sounded :=
    numbered.sounded frames (VoicePool.mixFor channels voice) method
  unfold Voice.blockEnd
  dsimp only
  split
  · exact numbered
  · split
    · exact sounded.free
    · exact sounded

end NumberedBelow

end Voice

namespace Synth

/-- All voices have serials that were given away already. -/
def Numbered (synth : Synth) : Prop :=
  ∀ voice ∈ synth.pool.voices, voice.NumberedBelow synth.nextSerial

theorem numbered_new (configuration : SynthConfiguration) :
    (Synth.new configuration).Numbered := by
  intro voice member
  rw [List.eq_of_mem_replicate member]
  exact .inr ⟨rfl, rfl⟩

variable [Transcendental]

/-- A note takes the next serial, and no other change gives one to a voice. -/
theorem Numbered.mutation
    {synth : Synth}
    (numbered : synth.Numbered)
    (mutation : Mutation) :
    (mutation.apply synth).Numbered := by
  have effect := mutation.effect synth
  generalize mutation.apply synth = after at effect ⊢
  cases effect with
  | withdrawn updatePresets removed =>
      exact VoicePool.forall_changeWhere _
        (fun before => before.forceRelease _) _ numbered
  | noteStarted key velocity sounding =>
      apply VoicePool.forall_startLayers
      · intro voice _ zone _
        exact .start (Nat.lt_succ_self synth.nextSerial) _ zone voice.vacated
      · intro voice member
        exact (numbered voice member).mono (Nat.le_succ synth.nextSerial)
  | released condition =>
      exact VoicePool.forall_changeWhere _
        (fun before => before.release) condition numbered
  | cut condition seconds =>
      exact VoicePool.forall_changeWhere _
        (fun before => before.forceRelease seconds) condition numbered
  | _ => exact numbered

/-- In every session all serials were given away already. -/
theorem numbered_invariant : Invariant Synth.Numbered where
  mutation := fun mutation _ numbered => numbered.mutation mutation
  drops := by
    intro parked synth _ numbered
    exact numbered
  block := by
    intro frames synth numbered voice member
    rw [renderBlock_eq, VoicePool.render_eq] at member
    obtain ⟨old, oldMember, isVoice⟩ := List.mem_map.mp member
    subst voice
    exact (numbered old oldMember).blockEnd frames _ _

/-- No serial is given away twice. -/
theorem nextSerial_invariant (bound : Nat) :
    Invariant fun synth => bound ≤ synth.nextSerial where
  mutation := by
    intro mutation synth given
    have effect := mutation.effect synth
    generalize mutation.apply synth = after at effect ⊢
    cases effect with
    | noteStarted key velocity sounding => exact Nat.le_succ_of_le given
    | _ => exact given
  drops := by
    intro parked synth _ given
    exact given
  block := by
    intro frames synth given
    exact given

/-- The next serial is larger than those of all voices that have ever sounded. -/
theorem serial_lt_nextSerial
    (configuration : SynthConfiguration)
    (earlier later : List Action)
    {voice : Voice}
    (member :
      voice ∈ ((Synth.new configuration).run earlier).pool.voices)
    (sounding : ¬ voice.isFree) :
    voice.serial <
      ((Synth.new configuration).run (earlier ++ later)).nextSerial := by
  have numbered :=
    numbered_invariant.run earlier (numbered_new configuration)
  have given :=
    (nextSerial_invariant _).run later
      (Nat.le_refl ((Synth.new configuration).run earlier).nextSerial)
  have parts :
      (Synth.new configuration).run (earlier ++ later) =
        ((Synth.new configuration).run earlier).run later :=
    List.foldl_append
  rw [parts]
  exact Nat.lt_of_lt_of_le ((numbered voice member).serial_lt sounding) given

end Synth

end Polyphony.Engine
