import Polyphony.Proofs.Bindings
import Polyphony.Proofs.EnvelopeTimes
import Polyphony.Proofs.QueueRoom
import Polyphony.Proofs.Waning
import Polyphony.Proofs.ZoneStarts

/-!
# Unloaded banks fall silent

A held voice reads a bank of the table.  When a bank is taken out, all voices
that read it fade out quickly, those that are being released already not later
than they would have.  Handles are not given out twice, so no note reads the
bank any more, and it is silent once the time of a quick fade has been rendered.
-/

namespace Polyphony.Sound.Envelope

/-- However an envelope is forced to fade, it does so within the time allowed. -/
theorem Counting.fadesWithin_forceRelease
    {seconds : Float32}
    {samples : Nat}
    {envelope : Envelope}
    (counting : envelope.Counting)
    (isNumber : seconds.isNaN = false)
    (some : 1 ≤ samples)
    (within : envelope.samplesFor seconds ≤ samples) :
    (envelope.forceRelease seconds).FadesWithin samples := by
  have started :
      ∀ shorter,
        envelope.samplesFor shorter ≤ samples →
        (envelope.startRelease shorter).FadesWithin samples := by
    intro shorter fewer
    rcases envelope.startRelease_eq shorter with
      resting | ⟨releasing, sameLength, someLeft⟩
    · exact .of_idle resting some
    · exact .of_release releasing (by omega) (by omega)
  unfold Envelope.forceRelease
  split
  · rename_i resting
    exact .of_idle resting some
  · rename_i releasing
    split
    · exact started seconds within
    · rename_i notShorter
      exact .of_release releasing (counting releasing) (by omega)
  · have shorter :=
      envelope.samplesFor_smaller envelope.parameters.release isNumber
    exact started _ (Nat.le_trans shorter within)

end Polyphony.Sound.Envelope

namespace Polyphony.Engine

open Instrument (Bank BankId)
open Number (Transcendental)
open Sound (Envelope)

/-- How many samples a quick fade lasts. -/
def quickFade (configuration : SynthConfiguration) : Nat :=
  (Envelope.new configuration.sampleRate).samplesFor forcedRelease

theorem one_le_quickFade (configuration : SynthConfiguration) :
    1 ≤ quickFade configuration :=
  Envelope.one_le_samplesFor (by decide +kernel) _

/-! ## Voices and the banks that they read -/

namespace Voice

/-- The bank that the voice reads is in the table, or the voice fades away. -/
def Accounted
    (frames : Nat)
    (banks : BankTable)
    (voice : Voice) : Prop :=
  ∀ source,
    voice.source? = some source →
    banks.get? source.id = some source ∨ voice.FadesWithin frames

variable {frames : Nat} {banks : BankTable} {voice : Voice}

theorem Accounted.release (accounted : voice.Accounted frames banks) :
    voice.release.Accounted frames banks := by
  intro source held
  rw [source?_release] at held
  exact (accounted source held).imp_right FadesWithin.release

theorem Accounted.forceRelease
    (accounted : voice.Accounted frames banks)
    (seconds : Float32) :
    (voice.forceRelease seconds).Accounted frames banks := by
  intro source held
  rw [source?_forceRelease] at held
  exact (accounted source held).imp_right fun fades =>
    fades.forceRelease seconds

/-- What the table still has after a change, it had before. -/
theorem Accounted.mono
    {after : BankTable}
    (accounted : voice.Accounted frames banks)
    (keeps :
      ∀ source,
        voice.source? = some source →
        banks.get? source.id = some source →
        after.get? source.id = some source) :
    voice.Accounted frames after := by
  intro source held
  exact (accounted source held).imp_left (keeps source held)

end Voice

namespace Voice.Accounted

variable {frames : Nat} {banks : BankTable} {voice : Voice}

/-- A free voice reads no bank. -/
theorem of_free
    (wellFormed : voice.WellFormed)
    (free : voice.isFree) :
    voice.Accounted frames banks := by
  intro source held
  rw [wellFormed.source?_of_free free] at held
  cases held

/-- A voice whose bank is taken out fades, and no other loses its bank. -/
theorem withdrawn
    {after : BankTable}
    {id : BankId}
    {entry : BankReference}
    (accounted : voice.Accounted frames banks)
    (removal : banks.remove? id = some (entry, after))
    (wellFormed : voice.WellFormed)
    (counting : voice.envelope.Counting)
    (some : 1 ≤ frames)
    (within : voice.envelope.samplesFor forcedRelease ≤ frames) :
    (if VoicePool.isReading id voice then
        voice.forceRelease forcedRelease
      else
        voice).Accounted frames after := by
  split
  · rename_i reading
    intro source held
    rw [source?_forceRelease] at held
    have notFree : voice.isFree = false := by
      apply Bool.eq_false_iff.mpr
      intro free
      rw [wellFormed.source?_of_free free] at held
      cases held
    refine .inr ⟨?_, ?_⟩
    · simp [Voice.forceRelease, notFree]
    · have fades :=
        counting.fadesWithin_forceRelease (by decide +kernel) some within
      simpa [Voice.forceRelease, notFree] using fades
  · rename_i notReading
    refine accounted.mono fun source held loaded => ?_
    have other : source.id ≠ id := by
      intro same
      apply notReading
      simp [VoicePool.isReading, wellFormed.named, held, same]
    rwa [BankTable.get?_of_remove? removal other]

/-- A voice that outlasts a block reads what it has read, and fades as it has. -/
theorem blockEnd
    [Transcendental]
    {block : Nat}
    {channels : List Channel}
    {method : Sound.Interpolation}
    (accounted : voice.Accounted frames banks)
    (wellFormed : voice.WellFormed)
    (lastWellFormed : (voice.blockEnd block channels method).2.WellFormed) :
    (voice.blockEnd block channels method).2.Accounted frames banks := by
  by_cases free : (voice.blockEnd block channels method).2.isFree
  · exact of_free lastWellFormed free
  · obtain ⟨-, hasSounded⟩ := blockEnd_of_sounding free
    have sameOrigin :
        (voice.blockEnd block channels method).2.origin = voice.origin := by
      rw [hasSounded, origin_sounded]
    intro source held
    have sameSource := congrArg (·.source?) sameOrigin
    refine (accounted source (sameSource.symm.trans held)).imp_right ?_
    intro fades
    have later := fades.blockEnd wellFormed free
    exact ⟨later.releasing, later.envelope.mono (Nat.sub_le frames block)⟩

end Voice.Accounted

namespace Synth

/-- All voices are accounted for, and count samples at the rate of the output. -/
structure Accounted
    (configuration : SynthConfiguration)
    (synth : Synth) : Prop where
  bound : synth.Bound
  wellFormed : synth.pool.WellFormed
  counting : ∀ voice ∈ synth.pool.voices, voice.envelope.Counting
  rate : ∀ voice ∈ synth.pool.voices, voice.RunsAt configuration.sampleRate
  voices :
    ∀ voice ∈ synth.pool.voices,
      voice.Accounted (quickFade configuration) synth.banks

namespace Accounted

variable {configuration : SynthConfiguration} {synth : Synth}

theorem new (configuration : SynthConfiguration) :
    (Synth.new configuration).Accounted configuration where
  bound := .new configuration
  wellFormed := wellFormed_new configuration
  counting := by
    intro voice member releasing
    rw [List.eq_of_mem_replicate member] at releasing
    cases releasing
  rate := by
    intro voice member
    rw [List.eq_of_mem_replicate member]
    exact ⟨rfl, rfl⟩
  voices := by
    intro voice member source held
    rw [List.eq_of_mem_replicate member] at held
    cases held

/-- No mutation leaves a voice with a bank that is gone, and lasting on. -/
theorem mutation_voices
    [Transcendental]
    (accounted : synth.Accounted configuration)
    (mutation : Mutation) :
    ∀ voice ∈ (mutation.apply synth).pool.voices,
      voice.Accounted (quickFade configuration)
        (mutation.apply synth).banks := by
  have effect := mutation.effect synth
  generalize mutation.apply synth = after at effect ⊢
  cases effect with
  | published updatePresets inserted =>
      intro voice member
      exact (accounted.voices voice member).mono fun _ _ loaded =>
        BankTable.get?_of_insert inserted loaded
  | refused updatePresets inserted => exact accounted.voices
  | withdrawn updatePresets removed =>
      intro voice member
      obtain ⟨old, oldMember, isVoice⟩ := List.mem_map.mp member
      subst voice
      have sameRate := (accounted.rate old oldMember).ofEnvelope
      exact (accounted.voices old oldMember).withdrawn removed
        (accounted.wellFormed old oldMember) (accounted.counting old oldMember)
        (one_le_quickFade configuration)
        (Nat.le_of_eq (Envelope.samplesFor_congr sameRate forcedRelease))
  | unknown updatePresets removed => exact accounted.voices
  | selected leavesTable notNote found inside => exact accounted.voices
  | searched bankNumber program => exact accounted.voices
  | adjusted leavesTable notNote sameBinding => exact accounted.voices
  | @noteStarted channel source preset key velocity sounding =>
      obtain ⟨entry, id, position, -, -, loaded, -⟩ :=
        notePreset?_eq_some sounding
      have sourceLoaded : synth.banks.get? source.id = some source := by
        rwa [(BankTable.mem_of_get? loaded).2]
      refine VoicePool.forall_startLayers _ ?_ accounted.voices
      intro voice _ zone _ held isHeld
      cases isHeld
      exact .inl sourceLoaded
  | silent key velocity sounding => exact accounted.voices
  | released condition =>
      exact VoicePool.forall_changeWhere
        (Voice.Accounted (quickFade configuration) synth.banks)
        Voice.Accounted.release condition accounted.voices
  | cut condition seconds =>
      exact VoicePool.forall_changeWhere
        (Voice.Accounted (quickFade configuration) synth.banks)
        (fun kept => kept.forceRelease seconds) condition accounted.voices

variable [Transcendental]

/-- Mutations, drops and blocks keep all voices accounted for. -/
theorem invariant (configuration : SynthConfiguration) :
    Invariant (Synth.Accounted configuration) where
  mutation := by
    intro mutation synth accounted
    exact {
      bound := accounted.bound.mutation mutation
      wellFormed := wellFormed_invariant.mutation mutation accounted.wellFormed
      counting :=
        Voice.counting_invariant.synth.mutation mutation accounted.counting
      rate :=
        (Voice.runsAt_invariant _).synth.mutation mutation accounted.rate
      voices := accounted.mutation_voices mutation
    }
  drops := by
    intro parked synth shorter accounted
    exact {
      bound := Bound.invariant.drops shorter accounted.bound
      wellFormed := accounted.wellFormed
      counting := accounted.counting
      rate := accounted.rate
      voices := accounted.voices
    }
  block := by
    intro frames synth accounted
    have wellFormed := wellFormed_invariant.block frames accounted.wellFormed
    refine {
      bound := Bound.invariant.block frames accounted.bound
      wellFormed := wellFormed
      counting := Voice.counting_invariant.synth.block frames accounted.counting
      rate := (Voice.runsAt_invariant _).synth.block frames accounted.rate
      voices := ?_
    }
    intro voice member
    have lastWellFormed := wellFormed voice member
    rw [renderBlock_eq, VoicePool.render_eq] at member
    obtain ⟨old, oldMember, isVoice⟩ := List.mem_map.mp member
    subst voice
    exact (accounted.voices old oldMember).blockEnd
      (accounted.wellFormed old oldMember) lastWellFormed

/-- The voices of a session are accounted for at every point of it. -/
theorem run
    (configuration : SynthConfiguration)
    (actions : List Action) :
    ((Synth.new configuration).run actions).Accounted configuration :=
  (invariant configuration).run actions (new configuration)

end Accounted

/-! ## Handles that are gone -/

/-- A handle has been given out, and its bank is not in the table any more. -/
structure Gone
    (id : BankId)
    (synth : Synth) : Prop where
  absent : synth.banks.get? id = none
  givenOut : id.number < synth.banks.nextNumber

namespace Gone

variable {id : BankId} {synth : Synth}

/-- An insertion takes another handle than those that were given out. -/
theorem insert
    {bank : Bank}
    {other : BankId}
    {after : BankTable}
    (gone : synth.Gone id)
    (insertion : synth.banks.insert bank = .ok (other, after)) :
    after.get? id = none ∧ id.number < after.nextNumber := by
  obtain ⟨-, afterShape⟩ := BankTable.insert_eq_ok insertion
  subst after
  have different : (⟨synth.banks.nextNumber⟩ : BankId) ≠ id := by
    intro same
    have below := gone.givenOut
    rw [← same] at below
    exact Nat.lt_irrefl _ below
  refine ⟨?_, Nat.lt_succ_of_lt gone.givenOut⟩
  have absent := gone.absent
  rw [BankTable.get?] at absent ⊢
  simp [List.find?_append, absent, different]

/-- A removal leaves a table without the handles that it has not had. -/
theorem remove?
    {other : BankId}
    {entry : BankReference}
    {after : BankTable}
    (gone : synth.Gone id)
    (removal : synth.banks.remove? other = some (entry, after)) :
    after.get? id = none ∧ id.number < after.nextNumber := by
  obtain ⟨loaded, afterShape⟩ := BankTable.remove?_eq_some removal
  have different : id ≠ other := by
    intro same
    rw [← same, gone.absent] at loaded
    cases loaded
  refine ⟨?_, ?_⟩
  · rw [BankTable.get?_of_remove? removal different]
    exact gone.absent
  · subst after
    exact gone.givenOut

/-- What leaves the table alone leaves a handle gone. -/
theorem of_banks_eq
    {after : Synth}
    (gone : synth.Gone id)
    (same : after.banks = synth.banks) :
    after.Gone id where
  absent := by rw [same]; exact gone.absent
  givenOut := by rw [same]; exact gone.givenOut

variable [Transcendental]

/-- A handle that is gone stays gone. -/
theorem invariant (id : BankId) : Invariant (Synth.Gone id) where
  mutation := by
    intro mutation synth gone
    have effect := mutation.effect synth
    generalize mutation.apply synth = after at effect ⊢
    cases effect with
    | published updatePresets inserted =>
        obtain ⟨absent, givenOut⟩ := gone.insert inserted
        exact ⟨absent, givenOut⟩
    | refused updatePresets inserted => exact gone
    | withdrawn updatePresets removed =>
        obtain ⟨absent, givenOut⟩ := gone.remove? removed
        exact ⟨absent, givenOut⟩
    | unknown updatePresets removed => exact gone
    | selected leavesTable notNote found inside => exact gone.of_banks_eq rfl
    | searched bankNumber program => exact gone.of_banks_eq rfl
    | adjusted leavesTable notNote sameBinding => exact gone.of_banks_eq rfl
    | noteStarted key velocity sounding => exact gone.of_banks_eq rfl
    | silent key velocity sounding => exact gone
    | released condition => exact gone.of_banks_eq rfl
    | cut condition seconds => exact gone.of_banks_eq rfl
  drops := by
    intro parked synth _ gone
    exact gone.of_banks_eq rfl
  block := by
    intro frames synth gone
    exact gone.of_banks_eq rfl

end Gone

/-- An unloading withdraws the bank, and then drops all parked references. -/
theorem unload_synth
    [Transcendental]
    (id : BankId)
    (updatePresets : Bool)
    (synth : Synth) :
    (synth.unload id updatePresets).synth =
      ((Mutation.withdraw id updatePresets).apply synth).withParked [] := by
  simp only [unload, concludeWith_synth]
  rfl

/-- An unloading that succeeds has found the bank, and the handle is gone. -/
theorem gone_of_unload
    {id : BankId}
    {updatePresets : Bool}
    {synth : Synth}
    (table : synth.banks.WellFormed)
    (succeeds : (synth.unload id updatePresets).result = .ok ()) :
    (synth.unload id updatePresets).synth.Gone id := by
  cases removed : synth.banks.remove? id with
  | none =>
      simp [unload, withdraw, removed, concludeWith, conclude] at succeeds
      cases succeeds
  | some removal =>
      obtain ⟨entry, after⟩ := removal
      obtain ⟨loaded, afterShape⟩ := BankTable.remove?_eq_some removed
      obtain ⟨member, sameId⟩ := BankTable.mem_of_get? loaded
      have sameBanks : (synth.unload id updatePresets).synth.banks = after := by
        simp [unload, withdraw, removed, afterChange, rebindFrom, reclaimed_eq]
      refine ⟨?_, ?_⟩
      · rw [sameBanks]
        exact table.get?_removed removed
      · have givenOut := table.givenOut entry member
        rw [sameBanks, afterShape, ← sameId]
        exact givenOut

/-- Whether an origin is a note that reads a bank. -/
def readFrom
    (id : BankId)
    (origin : Origin) : Prop :=
  ∃ source, origin.source? = some source ∧ source.id = id

/-- No channel leads to a handle that is gone. -/
theorem Gone.notePreset?_ne
    {id : BankId}
    {channel : Nat}
    {synth : Synth}
    {source : BankReference}
    {preset : Instrument.Preset}
    (gone : synth.Gone id)
    (sounding : synth.notePreset? channel = some (source, preset)) :
    source.id ≠ id := by
  obtain ⟨entry, other, position, -, -, loaded, -⟩ :=
    notePreset?_eq_some sounding
  intro same
  have sameId := (BankTable.mem_of_get? loaded).2
  rw [← sameId, same, gone.absent] at loaded
  cases loaded

/-- No call starts a voice that reads a handle that is gone. -/
theorem Gone.spares
    [Transcendental]
    {id : BankId}
    {synth : Synth}
    (gone : synth.Gone id)
    (action : Action) :
    synth.Spares (readFrom id) action := by
  intro loader command channel key velocity source preset _ _ sounding reads
  obtain ⟨other, isSource, sameId⟩ := reads
  cases isSource
  exact gone.notePreset?_ne sounding sameId

/-! ## Voices of a session and the banks that they read -/

/-- A held voice reads a bank that the table has. -/
theorem Accounted.loaded_of_held
    {configuration : SynthConfiguration}
    {synth : Synth}
    {voice : Voice}
    (accounted : synth.Accounted configuration)
    (member : voice ∈ synth.pool.voices)
    (held : voice.isHeld) :
    ∃ source,
      synth.banks.get? source.id = some source ∧
        voice.bankId? = some source.id ∧
        voice.source? = some source := by
  have wellFormed := accounted.wellFormed voice member
  obtain ⟨source, reads⟩ :=
    wellFormed.exists_source (Voice.not_isFree_of_isHeld held)
  refine ⟨source, ?_, by rw [wellFormed.named, reads]; rfl, reads⟩
  rcases accounted.voices voice member source reads with loaded | fades
  · exact loaded
  · rw [fades.isHeld] at held
    cases held

/-- A sounding voice that reads a bank the table lacks fades out quickly. -/
theorem Accounted.fades_of_absent
    {configuration : SynthConfiguration}
    {synth : Synth}
    {voice : Voice}
    (accounted : synth.Accounted configuration)
    (member : voice ∈ synth.pool.voices)
    (sounding : ¬ voice.isFree) :
    ∃ id,
      voice.bankId? = some id ∧
        (synth.banks.get? id = none →
          voice.FadesWithin (quickFade configuration)) := by
  have wellFormed := accounted.wellFormed voice member
  obtain ⟨source, reads⟩ := wellFormed.exists_source sounding
  refine ⟨source.id, by rw [wellFormed.named, reads]; rfl, ?_⟩
  intro absent
  rcases accounted.voices voice member source reads with loaded | fades
  · rw [absent] at loaded
    cases loaded
  · exact fades

variable [Transcendental]

/-- Voices that read a handle that is gone have read it before, and fade. -/
theorem Accounted.run_wanes_gone
    {configuration : SynthConfiguration}
    {id : BankId}
    {synth : Synth}
    (accounted : synth.Accounted configuration)
    (gone : synth.Gone id)
    (actions : List Action)
    {slot : Nat}
    {last : Voice}
    (present : (synth.run actions).pool.voices[slot]? = some last)
    (reading : VoicePool.isReading id last) :
    ∃ voice,
      synth.pool.voices[slot]? = some voice ∧
        voice.origin = last.origin ∧
        VoicePool.isReading id voice ∧
        last.FadesWithin (quickFade configuration - totalFrames actions) := by
  have wanes :
      synth.pool.Wanes (readFrom id) (totalFrames actions)
        (synth.run actions).pool :=
    run_wanes (Gone.invariant id) (fun action _ _ still => still.spares action)
      accounted.wellFormed gone
  have lastMember := List.mem_of_getElem? present
  have lastWellFormed :=
    wellFormed_invariant.run actions accounted.wellFormed last lastMember
  have named : last.bankId? = some id := of_decide_eq_true reading
  rw [lastWellFormed.named, Option.map_eq_some_iff] at named
  obtain ⟨source, reads, sameId⟩ := named
  have sounding : ¬ last.isFree := by
    intro free
    rw [lastWellFormed.source?_of_free free] at reads
    cases reads
  obtain ⟨voice, voicePresent, voiceSounding, sameOrigin, fades⟩ :=
    wanes slot last present sounding ⟨source, reads, sameId⟩
  have voiceMember := List.mem_of_getElem? voicePresent
  have voiceReads : voice.source? = some source :=
    (congrArg Origin.source? sameOrigin).trans reads
  have voiceNamed : voice.bankId? = some id := by
    rw [(accounted.wellFormed voice voiceMember).named, voiceReads]
    exact congrArg some sameId
  refine ⟨voice, voicePresent, sameOrigin, decide_eq_true voiceNamed, ?_⟩
  apply fades
  obtain ⟨other, isNamed, quick⟩ :=
    accounted.fades_of_absent voiceMember voiceSounding
  rw [voiceNamed] at isNamed
  cases isNamed
  exact quick gone.absent

/--
At every point of a session a held voice reads the bank that the table has under
its handle, and a voice whose bank is gone fades out within the time of a quick
fade.  Once a bank has been unloaded, no channel ever leads to it and no voice
is started from it, so the voices that read it are those that read it then, and
none is left when a quick fade has been rendered, in calls of whatever sizes and
with whatever calls between them.
-/
theorem run_unloaded_banks_fall_silent
    (configuration : SynthConfiguration)
    (actions : List Action) :
    let synth := (Synth.new configuration).run actions
    (∀ voice ∈ synth.pool.voices,
      voice.state = .attacking ∨ voice.state = .sustaining →
      ∃ source,
        synth.banks.get? source.id = some source ∧
          voice.bankId? = some source.id ∧
          voice.source? = some source) ∧
      (∀ voice ∈ synth.pool.voices,
        voice.state ≠ .free →
        ∃ id,
          voice.bankId? = some id ∧
            (synth.banks.get? id = none →
              voice.state = .releasing ∧
                (voice.envelope.stage = .idle ∨
                  voice.envelope.stage = .release ∧
                    voice.envelope.remaining ≤ quickFade configuration))) ∧
      ∀ (id : BankId) (updatePresets : Bool),
        (synth.unload id updatePresets).result = .ok () →
        ∀ continuation : List Action,
          let unloaded := (synth.unload id updatePresets).synth
          let last := unloaded.run continuation
          last.banks.get? id = none ∧
            (∀ channel source preset,
              last.notePreset? channel = some (source, preset) →
              source.id ≠ id) ∧
            (∀ (slot : Nat) (voice : Voice),
              last.pool.voices[slot]? = some voice →
              VoicePool.isReading id voice →
              ∃ before,
                unloaded.pool.voices[slot]? = some before ∧
                  before.origin = voice.origin ∧
                  VoicePool.isReading id before) ∧
            (quickFade configuration ≤ totalFrames continuation →
              ∀ voice ∈ last.pool.voices,
                ¬ VoicePool.isReading id voice ∧
                  ¬ VoicePool.holdsReference id voice) := by
  intro synth
  have accounted : synth.Accounted configuration :=
    .run configuration actions
  refine ⟨?_, ?_, ?_⟩
  · intro voice member held
    exact accounted.loaded_of_held member (by simpa [Voice.isHeld] using held)
  · intro voice member sounding
    obtain ⟨id, named, quick⟩ :=
      accounted.fades_of_absent member (by simpa [Voice.isFree] using sounding)
    refine ⟨id, named, fun absent => ?_⟩
    have fades := quick absent
    rcases fades.envelope.cases with idle | ⟨releasing, -, within⟩
    · exact ⟨fades.releasing, .inl idle⟩
    · exact ⟨fades.releasing, .inr ⟨releasing, within⟩⟩
  · intro id updatePresets succeeds continuation unloaded last
    have gone : unloaded.Gone id :=
      gone_of_unload accounted.bound.table succeeds
    have unloadedAccounted : unloaded.Accounted configuration := by
      have withdrawn :=
        (Accounted.invariant configuration).mutation
          (.withdraw id updatePresets) accounted
      have dropped :=
        (Accounted.invariant configuration).drops List.nil_suffix withdrawn
      rwa [← unload_synth] at dropped
    have lastGone : last.Gone id :=
      (Gone.invariant id).run continuation gone
    have lastWellFormed : last.pool.WellFormed :=
      wellFormed_invariant.run continuation unloadedAccounted.wellFormed
    refine ⟨lastGone.absent, fun _ _ _ => lastGone.notePreset?_ne, ?_, ?_⟩
    · intro slot voice present reading
      obtain ⟨before, beforePresent, sameOrigin, readBefore, -⟩ :=
        unloadedAccounted.run_wanes_gone gone continuation present reading
      exact ⟨before, beforePresent, sameOrigin, readBefore⟩
    · intro longEnough voice member
      have silent : ¬ VoicePool.isReading id voice := by
        intro reading
        obtain ⟨slot, present⟩ := List.mem_iff_getElem?.mp member
        obtain ⟨-, -, -, -, fades⟩ :=
          unloadedAccounted.run_wanes_gone gone continuation present reading
        have left := fades.envelope.pos
        omega
      refine ⟨silent, ?_⟩
      intro holding
      apply silent
      have named := (lastWellFormed voice member).named
      cases reads : voice.source? with
      | none => simp [VoicePool.holdsReference, reads] at holding
      | some source =>
          simp [VoicePool.holdsReference, reads] at holding
          simp [VoicePool.isReading, named, reads, holding]

end Synth

namespace Synth

open Instrument (Zone)
open SharedEngine (clickBank soloConfiguration)

/-- The click, repeated for as long as it is heard. -/
def droneBank : Bank where
  name := "drone"
  samples := clickBank.samples
  presets :=
    [⟨"drone", 0, 0,
      [{ Zone.playing (.spanning 0 4 44100) with loopMode := .continuous }]⟩]
  faultFree := by decide

/-- A bank is loaded, and a key plays it. -/
def droning : List Action :=
  [.control (fun _ => .loaded droneBank) (.addBank droneBank true),
    .control (fun _ => .loaded droneBank) (.noteOn 0 60 100)]

/-- Sound, with a key that plays nothing and another bank in the midst of it. -/
def forgetting : List Action :=
  [.render 300,
    .control (fun _ => .loaded clickBank) (.noteOn 0 60 100),
    .control (fun _ => .loaded clickBank) (.addBank clickBank true),
    .renderSamples 141]

theorem unloaded_drone_falls_silent :
    let synth := (Synth.new soloConfiguration).run droning
    let outcome := synth.unload ⟨1⟩ true
    outcome.result = .ok () ∧
      outcome.synth.pool.voices.map (VoicePool.isReading ⟨1⟩) = [true] ∧
      quickFade soloConfiguration = 441 ∧
      totalFrames forgetting = 441 ∧
      ∀ voice ∈ (outcome.synth.run forgetting).pool.voices,
        ¬ VoicePool.isReading ⟨1⟩ voice ∧
          ¬ VoicePool.holdsReference ⟨1⟩ voice := by
  have succeeds :
      (((Synth.new soloConfiguration).run droning).unload ⟨1⟩ true).result =
        .ok () := by
    decide +kernel
  have quick : quickFade soloConfiguration = 441 := by decide +kernel
  have total : totalFrames forgetting = 441 := by decide
  obtain ⟨-, -, unloading⟩ :=
    run_unloaded_banks_fall_silent soloConfiguration droning
  obtain ⟨-, -, -, silent⟩ := unloading ⟨1⟩ true succeeds forgetting
  exact ⟨succeeds, by decide +kernel, quick, total,
    silent (by rw [quick, total])⟩

end Synth

end Polyphony.Engine
