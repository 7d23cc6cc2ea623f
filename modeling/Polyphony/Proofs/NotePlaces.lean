import Polyphony.Proofs.Conservation
import Polyphony.Proofs.Serials
import Polyphony.Proofs.SingleNotes
import Polyphony.Proofs.StealOrder
import Polyphony.Proofs.ZoneStarts

namespace Polyphony.Engine

/-!
# The places of a note's layers

The layers of a note start one after the other, and each looks for the best
place as the voices are then.  Yet all of them find the places that were the
best before the note: first the free slots in order, and then the slots of the
voices that are first in line to be stolen.
-/

open Instrument (BankId Preset Zone)
open Number (Transcendental)

namespace VoicePool

/-! ## Filtered slots -/

/-- An entry that is no longer listed leaves the others as they were. -/
theorem filter_zipIdx_set
    {listed : Entry → Bool}
    {fresh : Entry}
    (unlisted : ¬ listed fresh)
    (entries : List Entry)
    (start slot : Nat) :
    ((entries.set slot fresh).zipIdx start).filter (listed ·.1) =
      ((entries.zipIdx start).filter (listed ·.1)).filter
        (·.2 ≠ start + slot) := by
  induction entries generalizing start slot with
  | nil =>
      rfl
  | cons entry rest inductionHypothesis =>
      cases slot with
      | zero =>
          have others :
              ((rest.zipIdx (start + 1)).filter (listed ·.1)).filter
                  (·.2 ≠ start + 0) =
                (rest.zipIdx (start + 1)).filter (listed ·.1) := by
            apply List.filter_eq_self.mpr
            intro other member
            have later := List.le_snd_of_mem_zipIdx (List.mem_filter.mp member).1
            have differs : other.2 ≠ start + 0 := by omega
            exact decide_eq_true differs
          rw [List.set_cons_zero, List.zipIdx_cons, List.zipIdx_cons,
            List.filter_cons, if_neg unlisted, List.filter_cons]
          split
          · rw [List.filter_cons_of_neg (by simp), others]
          · rw [others]
      | succ slot =>
          have sameSlot : start + 1 + slot = start + (slot + 1) := by omega
          rw [List.set_cons_succ, List.zipIdx_cons, List.zipIdx_cons,
            List.filter_cons, List.filter_cons, inductionHypothesis, sameSlot]
          split
          · rw [List.filter_cons_of_pos (by simp)]
          · rfl

/-- A voice to which a condition no longer applies is listed no more. -/
theorem slotsWhere_set
    {condition : Voice → Bool}
    {pool after : VoicePool}
    {slot : Nat}
    {fresh : Voice}
    (unlisted : ¬ condition fresh)
    (changed : after.voices = pool.voices.set slot fresh) :
    after.slotsWhere condition =
      (pool.slotsWhere condition).filter (·.2 ≠ slot) := by
  rw [slotsWhere, changed, filter_zipIdx_set unlisted, Nat.zero_add]
  rfl

theorem slot_ne_of_nodup
    {entry : Voice × Nat}
    {rest : List (Voice × Nat)}
    (distinct : ((entry :: rest).map (·.2)).Nodup)
    {other : Voice × Nat}
    (member : other ∈ rest) :
    other.2 ≠ entry.2 := by
  intro same
  have fresh : entry.2 ∉ rest.map (·.2) := (List.nodup_cons.mp distinct).1
  exact fresh (same ▸ List.mem_map_of_mem member)

/-- Without the first slot the other slots remain. -/
theorem filter_slot_ne
    {entry : Voice × Nat}
    {rest : List (Voice × Nat)}
    (distinct : ((entry :: rest).map (·.2)).Nodup) :
    (entry :: rest).filter (·.2 ≠ entry.2) = rest := by
  rw [List.filter_cons_of_neg (by simp), List.filter_eq_self]
  intro other member
  exact decide_eq_true (slot_ne_of_nodup distinct member)

/-- The lowest free slot is the first of those that are free. -/
theorem freeSlot?_eq (pool : VoicePool) :
    pool.freeSlot? = (pool.slotsWhere Voice.isFree).head?.map (·.2) := by
  rw [freeSlot?, List.findIdx?_eq_fst_find?_zipIdx, slotsWhere,
    List.head?_filter]

/-! ## Places -/

/-- What is reported of a voice that gives its place to a layer, if it sounds. -/
def stolenFrom? (entry : Voice × Nat) : Option StolenVoice :=
  if entry.1.isFree then none else some (reported entry.2 entry.1)

/--
The places that the layers of a note can take, from the best on: those of the
free voices by slot, and those of the voices of other notes as they are stolen.
-/
structure Places
    (serial : Nat)
    (pool : VoicePool)
    (free line : List (Voice × Nat)) : Prop where
  available : free = pool.slotsWhere Voice.isFree
  listed :
    line.Perm
      (pool.slotsWhere fun voice => !voice.isFree && voice.serial ≠ serial)
  inLine : line.Pairwise fun first second => stolenBefore first second

namespace Places

variable {serial : Nat} {pool : VoicePool} {free line : List (Voice × Nat)}

theorem present_free
    (places : pool.Places serial free line)
    {entry : Voice × Nat}
    (member : entry ∈ free) :
    pool.voices[entry.2]? = some entry.1 ∧ entry.1.isFree := by
  rwa [places.available, mem_slotsWhere] at member

theorem present_line
    (places : pool.Places serial free line)
    {entry : Voice × Nat}
    (member : entry ∈ line) :
    pool.voices[entry.2]? = some entry.1 ∧
      ¬ entry.1.isFree ∧ entry.1.serial ≠ serial := by
  obtain ⟨present, condition⟩ :=
    mem_slotsWhere.mp (places.listed.mem_iff.mp member)
  simp only [Bool.and_eq_true, Bool.not_eq_true', decide_eq_true_eq] at condition
  exact ⟨present, by simp [condition.1], condition.2⟩

/-- A place is that of its voice, which does not sound the note itself. -/
theorem present
    (places : pool.Places serial free line)
    {entry : Voice × Nat}
    (member : entry ∈ free ++ line) :
    pool.voices[entry.2]? = some entry.1 ∧ ¬ sounds serial entry.1 := by
  rcases List.mem_append.mp member with isFree | inLine
  · obtain ⟨there, free⟩ := places.present_free isFree
    exact ⟨there, by simp [sounds, free]⟩
  · obtain ⟨there, -, other⟩ := places.present_line inLine
    exact ⟨there, by simp [sounds, other]⟩

/-- Whoever gives a place to a layer is reported, in the order of the places. -/
theorem filterMap_stolenFrom?
    (places : pool.Places serial free line)
    (first second : Nat) :
    (free.take first ++ line.take second).filterMap stolenFrom? =
      (line.take second).map fun entry => reported entry.2 entry.1 := by
  have silent : (free.take first).filterMap stolenFrom? = [] := by
    apply List.filterMap_eq_nil_iff.mpr
    intro entry member
    exact if_pos (places.present_free (List.mem_of_mem_take member)).2
  have told :
      (line.take second).filterMap stolenFrom? =
        (line.take second).map fun entry => reported entry.2 entry.1 := by
    rw [← List.filterMap_eq_map]
    apply List.filterMap_congr
    intro entry member
    exact if_neg (places.present_line (List.mem_of_mem_take member)).2.1
  rw [List.filterMap_append, silent, told, List.nil_append]

/-- No two places are the same. -/
theorem nodup (places : pool.Places serial free line) :
    ((free ++ line).map (·.2)).Nodup := by
  rw [List.map_append]
  refine List.nodup_append.mpr ⟨?_, ?_, ?_⟩
  · rw [places.available]
    exact nodup_slotsWhere _ _
  · exact (places.listed.map _).nodup_iff.mpr (nodup_slotsWhere _ _)
  · intro slot freeMember other lineMember same
    obtain ⟨first, firstMember, rfl⟩ := List.mem_map.mp freeMember
    obtain ⟨second, secondMember, rfl⟩ := List.mem_map.mp lineMember
    obtain ⟨firstPresent, free⟩ := places.present_free firstMember
    obtain ⟨secondPresent, notFree, -⟩ := places.present_line secondMember
    rw [same, secondPresent, Option.some.injEq] at firstPresent
    exact notFree (firstPresent ▸ free)

/-- When a layer has come into a place, the others are left. -/
theorem rest
    (places : pool.Places serial free line)
    {after : VoicePool}
    {slot : Nat}
    {fresh : Voice}
    (own : sounds serial fresh)
    (changed : after.voices = pool.voices.set slot fresh) :
    after.Places serial
      (free.filter (·.2 ≠ slot))
      (line.filter (·.2 ≠ slot)) := by
  simp only [sounds, Bool.and_eq_true, Bool.not_eq_true', decide_eq_true_eq]
    at own
  exact {
    available := by
      rw [slotsWhere_set (by simp [own]) changed, places.available]
    listed := by
      rw [slotsWhere_set (by simp [own]) changed]
      exact places.listed.filter _
    inLine := places.inLine.filter _
  }

/-- A layer is given the first of the places, unless there is none. -/
theorem allocate?
    (places : pool.Places serial free line) :
    (free ++ line = [] ∧ pool.allocate? serial = none) ∨
      ∃ entry rest ready,
        free ++ line = entry :: rest ∧
          pool.allocate? serial = some (⟨entry.2, stolenFrom? entry⟩, ready) ∧
          ready.voices = pool.voices.set entry.2 entry.1.vacated := by
  have lowest := pool.freeSlot?_eq
  rw [← places.available] at lowest
  cases free with
  | cons entry others =>
      obtain ⟨there, free⟩ := places.present_free List.mem_cons_self
      obtain ⟨inside, isVoice⟩ := List.getElem?_eq_some_iff.mp there
      refine .inr ⟨entry, others ++ line, pool, rfl, ?_, ?_⟩
      · rw [List.head?_cons, Option.map_some] at lowest
        rw [VoicePool.allocate?, lowest, stolenFrom?, if_pos free]
      · rw [Voice.vacated, if_pos free, ← isVoice, List.set_getElem_self]
  | nil =>
      -- No voice is free, so all voices of other notes stand in line.
      have noneFree : ∀ entry ∈ pool.voices.zipIdx, ¬ entry.1.isFree := by
        have none := places.available
        rw [slotsWhere, eq_comm, List.filter_eq_nil_iff] at none
        exact none
      have stealable : line.Perm (pool.stealable serial) := by
        refine places.listed.trans (List.Perm.of_eq ?_)
        apply List.filter_congr
        intro entry member
        simp [noneFree entry member]
      have victim := victim?_eq_head? stealable places.inLine
      rw [List.head?_nil, Option.map_none] at lowest
      rw [VoicePool.allocate?, lowest, victim, List.nil_append]
      cases line with
      | nil => exact .inl ⟨rfl, rfl⟩
      | cons entry others =>
          obtain ⟨-, sounding, -⟩ := places.present_line List.mem_cons_self
          refine .inr
            ⟨entry, others,
              (pool.putVoice entry.2 entry.1.free.2).retire entry.1.source?,
              rfl, ?_, ?_⟩
          · rw [stolenFrom?, if_neg sounding]
            rfl
          · rw [Voice.vacated, if_neg sounding]
            rfl

end Places

/-! ## All voices before a note -/

/-- All voices that are free, with their slots, from the lowest slot on. -/
structure FreeBySlot
    (free : List (Voice × Nat))
    (pool : VoicePool) : Prop where
  listed :
    ∀ {entry : Voice × Nat},
      entry ∈ free ↔
        pool.voices[entry.2]? = some entry.1 ∧ entry.1.state = .free
  ascending : (free.map (·.2)).Pairwise (· < ·)

/--
All voices that are not free, with their slots, in the order in which they are
stolen: released ones before held ones, and then by their serials, velocities and
slots.
-/
structure StealLine
    (line : List (Voice × Nat))
    (pool : VoicePool) : Prop where
  listed :
    ∀ {entry : Voice × Nat},
      entry ∈ line ↔
        pool.voices[entry.2]? = some entry.1 ∧ entry.1.state ≠ .free
  ordered :
    line.Pairwise fun first second =>
      first.1.stealRank first.2 < second.1.stealRank second.2

theorem freeBySlot_slotsWhere (pool : VoicePool) :
    pool.FreeBySlot (pool.slotsWhere Voice.isFree) where
  listed := by
    intro entry
    rw [mem_slotsWhere, Voice.isFree_iff]
  ascending := pool.ascending_slotsWhere Voice.isFree

theorem stealLine_lineUp (pool : VoicePool) :
    pool.StealLine (lineUp (pool.slotsWhere (!·.isFree))) where
  listed := by
    intro entry
    rw [(lineUp_perm _).mem_iff, mem_slotsWhere]
    simp [Voice.isFree]
  ordered :=
    (pairwise_lineUp (nodup_slotsWhere _ pool)).imp stolenBefore_iff.mp

/-! ## Layers in their places -/

/-- Layers of a note have come into places, one into each, in order. -/
structure Seated
    [Transcendental]
    (note : Note)
    (source : BankReference)
    (places : List (Voice × Nat))
    (zones : List Zone)
    (before : VoicePool)
    (report : NoteReport)
    (after : VoicePool) : Prop where
  stolen : report.stolen = (places.take zones.length).filterMap stolenFrom?
  dropped : report.droppedLayers = zones.length - places.length
  started :
    ∀ (index : Nat) {entry : Voice × Nat} {zone : Zone},
      places[index]? = some entry →
      zones[index]? = some zone →
      after.voices[entry.2]? = some (entry.1.vacated.start note source zone)
  kept :
    ∀ slot,
      (∀ entry ∈ places.take zones.length, entry.2 ≠ slot) →
      after.voices[slot]? = before.voices[slot]?
  counted :
    after.voices.countP (sounds note.serial) =
      before.voices.countP (sounds note.serial) +
        min zones.length places.length

variable [Transcendental]

/-- Places beyond the last layer make no difference. -/
theorem Seated.take
    {note : Note}
    {source : BankReference}
    {places : List (Voice × Nat)}
    {zones : List Zone}
    {before after : VoicePool}
    {report : NoteReport}
    (seated : Seated note source places zones before report after) :
    Seated note source (places.take zones.length) zones before report after where
  stolen := by rw [seated.stolen, List.take_take, Nat.min_self]
  dropped := by
    rw [seated.dropped, List.length_take]
    omega
  started := by
    intro index entry zone isPlace isLayer
    have inside := (List.getElem?_eq_some_iff.mp isLayer).1
    rw [List.getElem?_take_of_lt inside] at isPlace
    exact seated.started index isPlace isLayer
  kept := by
    intro slot outside
    rw [List.take_take, Nat.min_self] at outside
    exact seated.kept slot outside
  counted := by
    rw [seated.counted, List.length_take]
    omega

/-- However many layers a note has, they come into the first of the places. -/
theorem Places.startLayers
    {note : Note}
    {pool : VoicePool}
    {free line : List (Voice × Nat)}
    (places : pool.Places note.serial free line)
    (source : BankReference)
    (zones : List Zone) :
    Seated note source (free ++ line) zones pool
      (pool.startLayers note source zones).1
      (pool.startLayers note source zones).2 := by
  induction zones generalizing pool free line with
  | nil =>
      exact {
        stolen := rfl
        dropped := by simp [VoicePool.startLayers, NoteReport.silent]
        started := by
          intro index entry zone _ none
          cases none
        kept := fun _ _ => rfl
        counted := by simp [VoicePool.startLayers]
      }
  | cons zone rest inductionHypothesis =>
      rcases places.allocate? with
        ⟨none, refused⟩ |
          ⟨entry, others, ready, shape, allocated, vacated⟩
      · simp only [VoicePool.startLayers, refused]
        rw [none]
        exact {
          stolen := rfl
          dropped := rfl
          started := by
            intro index entry zone absent
            cases absent
          kept := fun _ _ => rfl
          counted := by simp
        }
      · have distinct := places.nodup
        rw [shape] at distinct
        obtain ⟨there, other⟩ :=
          places.present (shape ▸ List.mem_cons_self)
        have inside := (List.getElem?_eq_some_iff.mp there).1
        have started :
            (ready.start entry.2 note source zone).voices =
              pool.voices.set entry.2
                (entry.1.vacated.start note source zone) := by
          have free : ready.voices[entry.2]? = some entry.1.vacated := by
            simp [vacated, inside]
          rw [start, modify_eq_set free, vacated, List.set_set]
        have own :
            sounds note.serial (entry.1.vacated.start note source zone) := by
          simp [sounds, Voice.start, Voice.isFree]
        -- The layers that follow see the places that this one has left.
        have later := inductionHypothesis (places.rest own started)
        rw [← List.filter_append, shape, filter_slot_ne distinct] at later
        simp only [VoicePool.startLayers, allocated]
        rw [shape]
        exact {
          stolen := by
            rw [later.stolen, List.length_cons, List.take_succ_cons,
              List.filterMap_cons]
            cases stolenFrom? entry <;> rfl
          dropped := by
            rw [later.dropped, List.length_cons, List.length_cons,
              Nat.add_sub_add_right]
          started := by
            intro index place layer isPlace isLayer
            cases index with
            | zero =>
                cases isPlace
                cases isLayer
                have stays := later.kept entry.2 fun other member =>
                  slot_ne_of_nodup distinct (List.mem_of_mem_take member)
                rw [stays, started]
                simp [inside]
            | succ index => exact later.started index isPlace isLayer
          kept := by
            intro slot outside
            rw [List.length_cons, List.take_succ_cons, List.forall_mem_cons]
              at outside
            rw [later.kept slot outside.2, started,
              List.getElem?_set_ne outside.1]
          counted := by
            rw [later.counted, started, countP_sounds_set there other own,
              List.length_cons, List.length_cons, Nat.add_min_add_right]
            omega
        }

/--
The layers come into as many places as there are, of the free ones the first,
and then the first of the others.
-/
theorem Places.startLayers_split
    {note : Note}
    {pool : VoicePool}
    {free line : List (Voice × Nat)}
    (places : pool.Places note.serial free line)
    (source : BankReference)
    (zones : List Zone)
    {count : Nat}
    (all : (free ++ line).length = count) :
    let started := min zones.length count
    let taken := free.take started ++ line.take (started - free.length)
    taken.length = started ∧
      Seated note source taken zones pool
        (pool.startLayers note source zones).1
        (pool.startLayers note source zones).2 := by
  intro started taken
  have split : (free ++ line).take zones.length = taken := by
    rw [List.take_eq_take_min, all, List.take_append]
  have seated := (places.startLayers source zones).take
  rw [split] at seated
  refine ⟨?_, seated⟩
  rw [← split, List.length_take, all]

/-! ## What a note does -/

/--
The first layers of a note have started, each in one of some places, the last of
which were those of its victims.
-/
structure NoteStarted
    (rate : Float32)
    (note : Note)
    (source : BankReference)
    (zones : List Zone)
    (places victims : List (Voice × Nat))
    (before after : List Voice)
    (report : NoteReport) : Prop where
  started :
    ∀ (index : Nat) {entry : Voice × Nat} {zone : Zone},
      places[index]? = some entry →
      zones[index]? = some zone →
      ∃ voice,
        after[entry.2]? = some voice ∧
          voice.Begins rate note source zone
  kept :
    ∀ {slot : Nat},
      (∀ entry ∈ places, entry.2 ≠ slot) →
      after[slot]? = before[slot]?
  sounding :
    after.countP (fun voice =>
        voice.state ≠ .free && voice.serial = note.serial) =
      places.length
  /-- The first serial is also that of voices that have never sounded. -/
  carrying :
    0 < note.serial →
    after.countP (·.serial = note.serial) = places.length
  stolen :
    report.stolen =
      victims.map fun (voice, slot) =>
        ⟨slot, voice.channel, voice.key, voice.state⟩
  dropped : report.droppedLayers = zones.length - places.length

/-- Free voices and those that stand in line run at a rate if all voices do. -/
theorem Places.runsAt
    {serial : Nat}
    {pool : VoicePool}
    {free line : List (Voice × Nat)}
    (places : pool.Places serial free line)
    {rate : Float32}
    (running : ∀ voice ∈ pool.voices, voice.RunsAt rate)
    {entry : Voice × Nat}
    (member : entry ∈ free ++ line) :
    entry.1.vacated.RunsAt rate := by
  have present := (places.present member).1
  exact (Voice.runsAt_invariant rate).vacated
    (running entry.1 (List.mem_of_getElem? present))

/-- A note that finds no voice of its own starts its layers in the best places. -/
theorem Places.noteStarted
    {note : Note}
    {pool : VoicePool}
    {free line : List (Voice × Nat)}
    (places : pool.Places note.serial free line)
    {rate : Float32}
    (running : ∀ voice ∈ pool.voices, voice.RunsAt rate)
    (fresh : pool.voices.countP (sounds note.serial) = 0)
    (source : BankReference)
    (zones : List Zone)
    (own :
      0 < note.serial →
      ∀ voice ∈ (pool.startLayers note source zones).2.voices,
        voice.serial = note.serial →
        voice.state ≠ .free)
    {count : Nat}
    (all : (free ++ line).length = count) :
    let started := min zones.length count
    let victims := line.take (started - free.length)
    let taken := free.take started ++ victims
    taken.length = started ∧
      NoteStarted rate note source zones taken victims pool.voices
        (pool.startLayers note source zones).2.voices
        (pool.startLayers note source zones).1 := by
  intro started victims taken
  obtain ⟨takenCount, seated⟩ :
      taken.length = started ∧ Seated note source taken zones pool _ _ :=
    places.startLayers_split source zones all
  have fewer : taken.length ≤ zones.length := by
    rw [takenCount]
    exact Nat.min_le_left ..
  have isPlace {entry : Voice × Nat} (member : entry ∈ taken) :
      entry ∈ free ++ line := by
    rcases List.mem_append.mp member with isFree | isVictim
    · exact List.mem_append_left line (List.mem_of_mem_take isFree)
    · exact List.mem_append_right free (List.mem_of_mem_take isVictim)
  have counted :
      (pool.startLayers note source zones).2.voices.countP
          (sounds note.serial) =
        taken.length := by
    rw [seated.counted, fresh, Nat.zero_add]
    exact Nat.min_eq_right fewer
  refine ⟨takenCount, ?_⟩
  exact {
    started := by
      intro index entry zone there isLayer
      have runsAt :=
        places.runsAt running (isPlace (List.mem_of_getElem? there))
      exact ⟨_, seated.started index there isLayer,
        runsAt.begins_start note source zone⟩
    kept := fun outside =>
      seated.kept _ fun entry member =>
        outside entry (List.mem_of_mem_take member)
    sounding := by
      rw [← counted]
      apply List.countP_congr
      intro voice _
      simp [sounds, Voice.isFree]
    carrying := by
      intro positive
      rw [← counted]
      apply List.countP_congr
      intro voice member
      have sounding := own positive voice member
      simp only [sounds, Voice.isFree, Bool.and_eq_true, Bool.not_eq_true',
        decide_eq_true_eq, decide_eq_false_iff_not]
      exact ⟨fun isOwn => ⟨sounding isOwn, isOwn⟩, And.right⟩
    stolen := by
      rw [seated.stolen, List.take_of_length_le fewer]
      exact places.filterMap_stolenFrom? _ _
    dropped := seated.dropped
  }

end VoicePool

/-! ## Notes -/

namespace Synth

open VoicePool

/-- No voice that sounds before a note is the note's own. -/
theorem Numbered.places
    {synth : Synth}
    (numbered : synth.Numbered) :
    synth.pool.Places synth.nextSerial
      (synth.pool.slotsWhere Voice.isFree)
      (lineUp (synth.pool.slotsWhere (!·.isFree))) where
  available := rfl
  listed := by
    refine (lineUp_perm _).trans (List.Perm.of_eq ?_)
    apply List.filter_congr
    intro entry member
    have there := List.mem_zipIdx_iff_getElem?.mp member
    have before := numbered entry.1 (List.mem_of_getElem? there)
    by_cases free : entry.1.isFree
    · simp [free]
    · have other := Nat.ne_of_lt (before.serial_lt free)
      simp [free, other]
  inLine := pairwise_lineUp (nodup_slotsWhere _ _)

/-- Every voice is free, or stands in line. -/
theorem length_free_add_line (pool : VoicePool) :
    (pool.slotsWhere Voice.isFree).length +
        (lineUp (pool.slotsWhere (!·.isFree))).length =
      pool.voices.length := by
  have split :=
    List.length_eq_countP_add_countP (l := pool.voices.zipIdx)
      fun entry => entry.1.isFree
  rw [List.length_zipIdx, List.countP_eq_length_filter,
    List.countP_eq_length_filter] at split
  rw [(lineUp_perm _).length_eq, split]
  simp [slotsWhere]

/-- A channel that has a binding is there. -/
theorem exists_channel_of_binding
    {number : Nat}
    {binding : Binding}
    {synth : Synth}
    (isBound : synth.binding number = .ok binding) :
    ∃ channel,
      synth.channels[number]? = some channel ∧ channel.binding = binding := by
  unfold Synth.binding at isBound
  split at isBound
  · rename_i channel present
    exact ⟨channel, present, Except.ok.inj isBound⟩
  · cases isBound

/-- Before a note, no voice sounds it. -/
theorem Numbered.countP_sounds
    {synth : Synth}
    (numbered : synth.Numbered) :
    synth.pool.voices.countP (sounds synth.nextSerial) = 0 := by
  apply List.countP_eq_zero.mpr
  intro voice member
  by_cases free : voice.isFree
  · simp [sounds, free]
  · simp [sounds,
      Nat.ne_of_lt ((numbered voice member).serial_lt free)]

variable [Transcendental]

/-- A note on a channel that is bound finds its preset, and starts its layers. -/
theorem Bound.startNote_eq
    {synth : Synth}
    (bound : synth.Bound)
    {channel position : Nat}
    {binding : Binding}
    {id : BankId}
    (isBound : synth.binding channel = .ok binding)
    (target : binding.target? = some (id, position))
    (key velocity : Nat) :
    ∃ source preset,
      synth.banks.get? id = some source ∧
        source.bank.presets[position]? = some preset ∧
        let started :=
          synth.pool.startLayers ⟨channel, key, velocity, synth.nextSerial⟩
            source (preset.layers key velocity)
        synth.startNote channel key velocity =
          (started.1,
            { synth with
              pool := started.2
              nextSerial := synth.nextSerial + 1 }) := by
  obtain ⟨entry, there, sameBinding⟩ := exists_channel_of_binding isBound
  have resolves := bound.resolves entry (List.mem_of_getElem? there)
  rw [← sameBinding] at target
  rcases startNote_of_resolves there resolves with
    ⟨nothing, -⟩ |
      ⟨otherId, otherPosition, source, preset, leads, loaded, listed, starts⟩
  · rw [nothing] at target
    cases target
  · rw [target, Option.some.injEq, Prod.mk.injEq] at leads
    obtain ⟨rfl, rfl⟩ := leads
    exact ⟨source, preset, loaded, listed, starts key velocity⟩

/-- What pressing a key tells and leaves, where nothing is wrong with it. -/
theorem noteOn_eq
    {channel key velocity : Nat}
    {synth : Synth}
    (channelValid : channel < synth.configuration.channels)
    (keyValid : key ≤ 127)
    (velocityValid : 1 ≤ velocity ∧ velocity ≤ 127) :
    synth.noteOn channel key velocity =
      let (report, started) := synth.startNote channel key velocity
      started.complete <|
        report.stolen.map .voiceStolen ++
          if report.droppedLayers = 0 then
            []
          else
            [.layersDropped channel key report.droppedLayers
              synth.configuration.polyphony] := by
  simp [noteOn, onChannel, channelError?, onKey,
    Nat.not_le.mpr channelValid, Nat.not_lt.mpr keyValid, velocityValid]

/-- After the first note, only voices that sound a note have its serial. -/
theorem Numbered.sounding_of_own
    {synth : Synth}
    (numbered : synth.Numbered)
    (positive : 0 < synth.nextSerial)
    (channel key velocity : Nat)
    (source : BankReference)
    (zones : List Zone) :
    let note : Note := ⟨channel, key, velocity, synth.nextSerial⟩
    ∀ voice ∈ (synth.pool.startLayers note source zones).2.voices,
      voice.serial = synth.nextSerial →
      voice.state ≠ .free := by
  intro note
  apply forall_startLayers
  · intro voice _ zone _ _
    simp [Voice.start]
  · intro voice member own
    have below := (numbered voice member).serial_lt_of_pos positive
    exact absurd own (Nat.ne_of_lt below)

/-- A handle and a position lead to a preset of a bank that is loaded. -/
structure Finds
    (id : BankId)
    (position : Nat)
    (source : BankReference)
    (preset : Preset)
    (synth : Synth) : Prop where
  loaded : synth.banks.get? id = some source
  sameId : source.id = id
  listed : source.bank.presets[position]? = some preset

/-- A call has pressed a key: the note is told, and the queue is emptied. -/
structure NoteTold
    (configuration : SynthConfiguration)
    (channel key : Nat)
    (synth noted : Synth)
    (report : NoteReport)
    (outcome : Outcome Unit) : Prop where
  result : outcome.result = .ok ()
  reclaimed : outcome.synth = noted.reclaimed
  log :
    outcome.log =
      noted.reclaim.1 ++
        (report.stolen.map .voiceStolen ++
          if report.droppedLayers = 0 then
            []
          else
            [.layersDropped channel key report.droppedLayers
              configuration.polyphony])
  channels : outcome.synth.channels = synth.channels
  banks : outcome.synth.banks = synth.banks

end Synth

namespace Synth

open Instrument (Bank)
open SharedEngine (clickBank soloConfiguration)
open VoicePool

/-- Three voices. -/
def chordConfiguration : SynthConfiguration :=
  { soloConfiguration with polyphony := 3 }

/-- The click, on one key only. -/
def clickOn (key : Nat) : Zone :=
  { Zone.playing (.spanning 0 4 44100) with keys := ⟨key, key⟩ }

/-- A preset with single notes, and with a chord of four layers on one key. -/
def chordPreset : Preset where
  name := "chord"
  bankNumber := 0
  program := 0
  zones :=
    [clickOn 62, clickOn 60, clickOn 62, clickOn 61, clickOn 62, clickOn 62]

/-- The bank of that preset. -/
def chordBank : Bank where
  name := "chord"
  samples := clickBank.samples
  presets := [chordPreset]
  faultFree := by decide

/-- Two single notes, of which the later is released. -/
def leadingUp : List Action :=
  [.control (fun _ => .loaded chordBank) (.addBank chordBank true),
    .control (fun _ => .loaded chordBank) (.noteOn 0 60 100),
    .control (fun _ => .loaded chordBank) (.noteOn 0 61 100),
    .control (fun _ => .loaded chordBank) (.noteOff 0 61)]

end Synth

end Polyphony.Engine
