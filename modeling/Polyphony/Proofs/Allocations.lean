import Mathlib.Order.Bounds.Basic
import Polyphony.Proofs.QueueRoom
import Polyphony.Proofs.StealOrder
import Polyphony.Proofs.VoiceInvariant

namespace Polyphony.Engine

/-!
# Requests for a voice

A pool does not ask where the serials of its notes come from: they may repeat,
and later notes may have lower ones.  Whatever was done to the pool, a request
finds the lowest free slot, or takes from another note the one voice that is
first in the lexicographic order of held, serial, velocity and slot.
-/

open Instrument (BankId Zone)
open Number (Transcendental)
open Sound (Interpolation)

/--
A call of a voice pool.  A slot is started whether or not it was requested, and
is in the pool or not; channels are those of the moment of rendering.
-/
inductive PoolCall where
  | request (serial : Nat)
  | start (slot : Nat) (note : Note) (source : BankReference) (zone : Zone)
  | releaseKey (channel key : Nat)
  | releaseChannel (channel? : Option Nat)
  | forceReleaseChannel (channel? : Option Nat) (seconds : Float32)
  | forceReleaseBank (id : BankId) (seconds : Float32)
  | render (frames : Nat) (channels : List Channel) (method : Interpolation)
  | drain

namespace VoicePool

/-- What a request for a voice answers, and the pool after it. -/
def request
    (serial : Nat)
    (pool : VoicePool) :
    Option Allocation × VoicePool :=
  match pool.allocate? serial with
  | some (allocation, ready) => (some allocation, ready)
  | none => (none, pool)

/-- The slots that are free. -/
def freeSlots (pool : VoicePool) : Set Nat :=
  { slot | ∃ voice, pool.voices[slot]? = some voice ∧ voice.state = .free }

/--
A voice is before all others of those that a note may steal from, in the order of
whether they are held, their serials, their velocities and their slots.
-/
structure FirstInLine
    (serial slot : Nat)
    (victim : Voice)
    (pool : VoicePool) : Prop where
  present : pool.voices[slot]? = some victim
  stealable : victim.serial ≠ serial
  first :
    ∀ {other : Nat} {voice : Voice},
      pool.voices[other]? = some voice →
      voice.serial ≠ serial →
      other ≠ slot →
      victim.stealRank slot < voice.stealRank other

/-- A slot has lost its voice, whose reference went to the queue. -/
structure Emptied
    (slot : Nat)
    (victim : Voice)
    (before after : VoicePool) : Prop where
  freed :
    ∃ voice,
      after.voices[slot]? = some voice ∧
        voice.state = .free ∧
        voice.source? = none
  others :
    ∀ {other : Nat},
      other ≠ slot →
      after.voices[other]? = before.voices[other]?
  retired :
    ∃ reference,
      victim.source? = some reference ∧
        victim.bankId? = some reference.id ∧
        after.retired = before.retired.retire (some reference) ∧
        (before.retired.parked.length < before.retired.capacity →
          after.retired.parked = before.retired.parked ++ [reference])

/-- The pool after a call. -/
def afterCall
    [Transcendental]
    (pool : VoicePool) :
    PoolCall → VoicePool
  | .request serial => (pool.request serial).2
  | .start slot note source zone => pool.start slot note source zone
  | .releaseKey channel key => pool.releaseKey channel key
  | .releaseChannel channel? => pool.releaseChannel channel?
  | .forceReleaseChannel channel? seconds =>
      pool.forceReleaseChannel channel? seconds
  | .forceReleaseBank id seconds => pool.forceReleaseBank id seconds
  | .render frames channels method => (pool.render frames channels method).2
  | .drain => pool.drain.2

/-- The pool after some calls, one after the other. -/
def afterCalls
    [Transcendental]
    (calls : List PoolCall)
    (pool : VoicePool) :
    VoicePool :=
  calls.foldl afterCall pool

variable {serial slot : Nat} {pool : VoicePool}

/-! ## Free slots -/

/-- The slot that is found is the lowest free one. -/
theorem isLeast_of_freeSlot?
    (found : pool.freeSlot? = some slot) :
    IsLeast pool.freeSlots slot := by
  obtain ⟨inside, free, lowerTaken⟩ :=
    List.findIdx?_eq_some_iff_getElem.mp found
  refine ⟨⟨_, List.getElem?_eq_getElem inside, (Voice.isFree_iff _).mp free⟩, ?_⟩
  rintro other ⟨voice, present, otherFree⟩
  obtain ⟨insideOther, isVoice⟩ := List.getElem?_eq_some_iff.mp present
  by_contra below
  refine lowerTaken other (by omega) ?_
  rw [isVoice, Voice.isFree_iff]
  exact otherFree

theorem request_of_freeSlot?
    (found : pool.freeSlot? = some slot) :
    pool.request serial = (some ⟨slot, none⟩, pool) := by
  simp only [request, allocate?, found]

/-- If a voice is free, the request is for the lowest free slot. -/
theorem request_of_free
    {voice : Voice}
    (member : voice ∈ pool.voices)
    (free : voice.state = .free) :
    ∃ slot,
      IsLeast pool.freeSlots slot ∧
        pool.request serial = (some ⟨slot, none⟩, pool) := by
  cases found : pool.freeSlot? with
  | none =>
      have taken := List.findIdx?_eq_none_iff.mp found voice member
      rw [voice.isFree_iff.mpr free] at taken
      cases taken
  | some slot =>
      exact ⟨slot, isLeast_of_freeSlot? found, request_of_freeSlot? found⟩

/-! ## Victims -/

/-- Without a free voice, the request is for the victim's. -/
theorem request_of_full
    (serial : Nat)
    (full : ∀ voice ∈ pool.voices, voice.state ≠ .free) :
    pool.request serial =
      match pool.victim? serial with
      | some (victim, slot) =>
          (some ⟨slot, some (reported slot victim)⟩,
            (pool.putVoice slot victim.free.2).retire victim.source?)
      | none => (none, pool) := by
  have noneFree : pool.freeSlot? = none :=
    List.findIdx?_eq_none_iff.mpr fun voice member => by
      simpa [Voice.isFree] using full voice member
  simp only [request, allocate?, noneFree]
  cases pool.victim? serial <;> rfl

theorem mem_stealable
    {voice : Voice} :
    (voice, slot) ∈ pool.stealable serial ↔
      pool.voices[slot]? = some voice ∧ voice.serial ≠ serial := by
  rw [stealable, mem_slotsWhere, decide_eq_true_iff]

/-- The line of those that a note may steal from. -/
theorem exists_line
    (serial : Nat)
    (pool : VoicePool) :
    ∃ line : List (Voice × Nat),
      line.Perm (pool.stealable serial) ∧
        line.Pairwise (fun first second => stolenBefore first second) ∧
        pool.victim? serial = line.head? := by
  have listed := lineUp_perm (pool.stealable serial)
  have inLine : (lineUp (pool.stealable serial)).Pairwise
      fun first second => stolenBefore first second :=
    pairwise_lineUp (nodup_slotsWhere _ pool)
  exact ⟨_, listed, inLine, victim?_eq_head? listed inLine⟩

/-- There is no victim exactly if all voices sound the note itself. -/
theorem victim?_eq_none_iff :
    pool.victim? serial = none ↔
      ∀ voice ∈ pool.voices, voice.serial = serial := by
  obtain ⟨line, listed, -, isHead⟩ := pool.exists_line serial
  rw [isHead, List.head?_eq_none_iff]
  constructor
  · intro nobody voice member
    obtain ⟨slot, present⟩ := List.mem_iff_getElem?.mp member
    by_contra other
    have inLine := listed.mem_iff.mpr (mem_stealable.mpr ⟨present, other⟩)
    rw [nobody] at inLine
    cases inLine
  · intro own
    refine List.eq_nil_iff_forall_not_mem.mpr ?_
    rintro ⟨voice, slot⟩ inLine
    obtain ⟨present, other⟩ := mem_stealable.mp (listed.mem_iff.mp inLine)
    exact other (own voice (List.mem_of_getElem? present))

/-- The victim is the first in line. -/
theorem firstInLine_of_victim?
    {victim : Voice}
    (found : pool.victim? serial = some (victim, slot)) :
    pool.FirstInLine serial slot victim where
  present := (victim?_eq_some found).1
  stealable := (victim?_eq_some found).2
  first := by
    intro other voice present stealable elsewhere
    obtain ⟨line, listed, ordered, isHead⟩ := pool.exists_line serial
    obtain ⟨others, isLine⟩ :=
      List.head?_eq_some_iff.mp (isHead.symm.trans found)
    have inLine :=
      listed.mem_iff.mpr (mem_stealable.mpr ⟨present, stealable⟩)
    rw [isLine] at inLine ordered
    rcases List.mem_cons.mp inLine with isVictim | later
    · cases isVictim
      exact absurd rfl elsewhere
    · exact stolenBefore_iff.mp ((List.pairwise_cons.mp ordered).1 _ later)

/-- Only one voice is the first in line. -/
theorem FirstInLine.slot_unique
    {victim voice : Voice}
    {other : Nat}
    (first : pool.FirstInLine serial slot victim)
    (second : pool.FirstInLine serial other voice) :
    other = slot := by
  by_contra elsewhere
  have before := first.first second.present second.stealable elsewhere
  have after :=
    second.first first.present first.stealable (Ne.symm elsewhere)
  exact lt_asymm before after

/-- To take the voice of a slot leaves the slot empty. -/
theorem emptied_of_putVoice
    {victim : Voice}
    (wellFormed : victim.WellFormed)
    (sounding : victim.state ≠ .free)
    (present : pool.voices[slot]? = some victim) :
    Emptied slot victim pool
      ((pool.putVoice slot victim.free.2).retire victim.source?) where
  freed := by
    have inside := (List.getElem?_eq_some_iff.mp present).1
    exact ⟨victim.free.2, List.getElem?_set_self inside, rfl, rfl⟩
  others := fun elsewhere => List.getElem?_set_ne elsewhere.symm
  retired := by
    obtain ⟨reference, source⟩ :=
      wellFormed.exists_source (mt victim.isFree_iff.mp sounding)
    have named : victim.bankId? = some reference.id := by
      rw [wellFormed.named, source]
      rfl
    rw [source]
    refine ⟨reference, rfl, named, rfl, ?_⟩
    intro room
    have queued :
        pool.retired.retire (some reference) =
          { pool.retired with parked := pool.retired.parked ++ [reference] } :=
      ReclamationQueue.retire_eq room
    exact congrArg ReclamationQueue.parked queued

/-! ## Runs of calls -/

theorem wellFormed_request (wellFormed : pool.WellFormed) :
    (pool.request serial).2.WellFormed := by
  unfold request
  cases allocated : pool.allocate? serial with
  | none =>
      exact wellFormed
  | some result =>
      obtain ⟨allocation, ready⟩ := result
      rcases allocate?_eq_some allocated with
        ⟨-, -, -, -, isReady⟩ | ⟨victim, -, -, -, -, isReady⟩
      · rw [isReady]
        exact wellFormed
      · rw [isReady]
        intro voice member
        rcases List.mem_or_eq_of_mem_set member with old | freed
        · exact wellFormed voice old
        · rw [freed]
          exact .free victim

variable [Transcendental]

theorem wellFormed_start
    (wellFormed : pool.WellFormed)
    (slot : Nat)
    (note : Note)
    (source : BankReference)
    (zone : Zone) :
    (pool.start slot note source zone).WellFormed := by
  intro voice member
  obtain ⟨place, present⟩ := List.mem_iff_getElem?.mp member
  simp only [start, List.getElem?_modify] at present
  obtain ⟨old, oldPresent, isVoice⟩ := Option.map_eq_some_iff.mp present
  subst isVoice
  split
  · exact .start note source zone old
  · exact wellFormed old (List.mem_of_getElem? oldPresent)

/-- Every call keeps all voices well formed. -/
theorem wellFormed_afterCall
    (wellFormed : pool.WellFormed)
    (call : PoolCall) :
    (pool.afterCall call).WellFormed := by
  cases call with
  | request serial => exact wellFormed_request wellFormed
  | start slot note source zone =>
      exact wellFormed_start wellFormed slot note source zone
  | releaseKey channel key =>
      exact forall_changeWhere _ .release _ wellFormed
  | releaseChannel channel? =>
      exact forall_changeWhere _ .release _ wellFormed
  | forceReleaseChannel channel? seconds =>
      exact forall_changeWhere _ (·.forceRelease seconds) _ wellFormed
  | forceReleaseBank id seconds =>
      exact forall_changeWhere _ (·.forceRelease seconds) _ wellFormed
  | render frames channels method =>
      exact (render_turns wellFormed frames channels method).wellFormed
  | drain => exact wellFormed

theorem wellFormed_afterCalls
    (wellFormed : pool.WellFormed)
    (calls : List PoolCall) :
    (pool.afterCalls calls).WellFormed := by
  induction calls generalizing pool with
  | nil => exact wellFormed
  | cons call rest inductionHypothesis =>
      exact inductionHypothesis (wellFormed_afterCall wellFormed call)

/--
After any calls, a request for a note finds the lowest free slot and changes
nothing, if a voice is free.  If none is, it finds nothing and changes nothing
exactly if all voices sound the note itself; and otherwise it takes the one voice
that is first in line, reports it, and queues its reference, and no other slot
changes.  The line is the lexicographic order of held, serial, velocity and
slot: of two keys one is before the other unless they are the same, and those of
two slots are not.
-/
theorem afterCalls_requests_are_best
    (outputRate : Float32)
    (polyphony queueCapacity : Nat)
    (calls : List PoolCall)
    (serial : Nat) :
    let pool :=
      (VoicePool.new outputRate polyphony queueCapacity).afterCalls calls
    ((∃ voice ∈ pool.voices, voice.state = .free) →
      ∃ slot,
        IsLeast pool.freeSlots slot ∧
          pool.request serial = (some ⟨slot, none⟩, pool)) ∧
      ((∀ voice ∈ pool.voices, voice.state ≠ .free) →
        (pool.request serial = (none, pool) ↔
            ∀ voice ∈ pool.voices, voice.serial = serial) ∧
          ((∃ voice ∈ pool.voices, voice.serial ≠ serial) →
            ∃ slot victim after,
              pool.request serial =
                  (some ⟨slot,
                    some ⟨slot, victim.channel, victim.key, victim.state⟩⟩,
                    after) ∧
                pool.FirstInLine serial slot victim ∧
                (∀ other voice,
                  pool.FirstInLine serial other voice → other = slot) ∧
                pool.Emptied slot victim after)) ∧
      (∀ first second : StealKey,
        (first.precedes second ↔ first.rank < second.rank) ∧
          (first.precedes second ∨ first = second ∨
            second.precedes first)) ∧
      ∀ (first second : Voice) (slot other : Nat),
        (first.stealKey slot).rank = first.stealRank slot ∧
          (slot ≠ other → first.stealKey slot ≠ second.stealKey other) := by
  intro pool
  have wellFormed : pool.WellFormed :=
    wellFormed_afterCalls (wellFormed_new outputRate polyphony queueCapacity)
      calls
  refine ⟨?_, ?_, ?_, ?_⟩
  · rintro ⟨voice, member, free⟩
    exact request_of_free member free
  · intro full
    have requested := request_of_full serial full
    have ownOnly :
        pool.victim? serial = none ↔
          ∀ voice ∈ pool.voices, voice.serial = serial :=
      victim?_eq_none_iff
    cases found : pool.victim? serial with
    | none =>
        have own := ownOnly.mp found
        rw [found] at requested
        refine ⟨iff_of_true requested own, ?_⟩
        rintro ⟨voice, member, other⟩
        exact absurd (own voice member) other
    | some result =>
        obtain ⟨victim, slot⟩ := result
        have first := firstInLine_of_victim? found
        have member := List.mem_of_getElem? first.present
        rw [found] at requested
        constructor
        · rw [requested, ← ownOnly, found]
          simp
        · intro _
          exact ⟨slot, victim, _, requested, first,
            fun _ _ => first.slot_unique,
            emptied_of_putVoice (wellFormed victim member)
              (full victim member) first.present⟩
  · intro first second
    exact ⟨StealKey.precedes_iff_rank_lt,
      StealKey.precedes_or_eq_or_precedes first second⟩
  · intro first second slot other
    exact ⟨StealKey.rank_stealKey slot first,
      fun differ same => differ (congrArg StealKey.slot same)⟩

end VoicePool

namespace VoicePool

/-- A reference to a bank of one click. -/
def clickReference : BankReference :=
  ⟨⟨1⟩, SharedEngine.clickBank⟩

/-- Two held notes, of which the later has the lower serial. -/
def countingDown : List PoolCall :=
  [.start 0 ⟨0, 60, 100, 9⟩ clickReference (.playing (.spanning 0 4 44100)),
    .start 1 ⟨5, 62, 100, 3⟩ clickReference (.playing (.spanning 0 4 44100))]

/-- The lower serial is stolen, although its note is the later one. -/
theorem lower_serial_is_stolen :
    let pool := (VoicePool.new 44100 2 4).afterCalls countingDown
    (∀ voice ∈ pool.voices, voice.state ≠ .free) ∧
      ∃ victim after,
        pool.request 7 = (some ⟨1, some ⟨1, 5, 62, .attacking⟩⟩, after) ∧
          pool.FirstInLine 7 1 victim ∧
          pool.Emptied 1 victim after ∧
          after.retired.parked = [clickReference] := by
  intro pool
  have full : ∀ voice ∈ pool.voices, voice.state ≠ .free := by decide +kernel
  have others : ∃ voice ∈ pool.voices, voice.serial ≠ 7 := by decide +kernel
  have answer :
      (pool.request 7).1 = some ⟨1, some ⟨1, 5, 62, .attacking⟩⟩ :=
    rfl
  obtain ⟨-, whenFull, -⟩ :=
    afterCalls_requests_are_best 44100 2 4 countingDown 7
  obtain ⟨slot, victim, after, requested, first, -, emptied⟩ :=
    (whenFull full).2 others
  have atOne : slot = 1 := by
    rw [requested] at answer
    exact congrArg Allocation.slot (Option.some.inj answer)
  subst slot
  have request :
      pool.request 7 = (some ⟨1, some ⟨1, 5, 62, .attacking⟩⟩, after) := by
    rw [← answer, requested]
  have queued : after.retired.parked = [clickReference] :=
    congrArg (·.2.retired.parked) requested.symm
  exact ⟨full, victim, after, request, first, emptied, queued⟩

end VoicePool

end Polyphony.Engine
