import Polyphony.Proofs.Blocks
import Polyphony.Proofs.Layers
import Polyphony.Proofs.Mutation

namespace Polyphony.Engine

/-!
# The references of a pool

A pool has references to banks in its voices and in its queue.  A layer that
starts makes one, and one that is stolen for it moves to the queue.  Sound moves
references to the queue and makes none.  All of this holds as long as the queue
has room, and it has: a note steals from others only, so it can queue no more
references than there are voices, and the voices that are left can queue no
more than that once again.
-/

open Instrument (Zone)
open Number (Transcendental)
open Sound (Interpolation)

namespace ReclamationQueue

/-- A reference that finds room is parked behind the others. -/
theorem retire_eq
    {queue : ReclamationQueue}
    {reference? : Option BankReference}
    (room :
      queue.parked.length + reference?.toList.length ≤ queue.capacity) :
    queue.retire reference? =
      { queue with parked := queue.parked ++ reference?.toList } := by
  cases reference? with
  | none =>
      simp [retire]
  | some reference =>
      have free : queue.parked.length < queue.capacity := room
      simp [retire, push?, free]

/-- References that find room are parked in their order. -/
theorem foldl_retire_eq
    {queue : ReclamationQueue}
    {references? : List (Option BankReference)}
    (room :
      queue.parked.length + (references?.filterMap id).length ≤
        queue.capacity) :
    references?.foldl
        (fun current reference? => current.retire reference?) queue =
      { queue with parked := queue.parked ++ references?.filterMap id } := by
  induction references? generalizing queue with
  | nil =>
      simp
  | cons reference? rest inductionHypothesis =>
      have split :
          (reference? :: rest).filterMap id =
            reference?.toList ++ rest.filterMap id := by
        cases reference? <;> simp
      rw [split, List.length_append] at room
      have first : queue.parked.length + reference?.toList.length ≤
          queue.capacity := by
        omega
      rw [List.foldl_cons, retire_eq first, inductionHypothesis, split,
        List.append_assoc]
      simp only [List.length_append]
      omega

end ReclamationQueue

namespace VoicePool

/-- The references that some voices hold, by slot. -/
def heldBy (voices : List Voice) : List BankReference :=
  voices.filterMap (·.source?)

/-- All references of a pool. -/
def references (pool : VoicePool) : List BankReference :=
  heldBy pool.voices ++ pool.retired.parked

/-- Whether a voice sounds the note of a serial. -/
def sounds
    (serial : Nat)
    (voice : Voice) :
    Bool :=
  !voice.isFree && voice.serial = serial

/-! ## Voices hold one reference each -/

theorem heldBy_cons
    (voice : Voice)
    (rest : List Voice) :
    heldBy (voice :: rest) = voice.source?.toList ++ heldBy rest := by
  cases held : voice.source? <;> simp [heldBy, held]

theorem length_heldBy_le (voices : List Voice) :
    (heldBy voices).length ≤ voices.length :=
  List.length_filterMap_le _ _

/-- Where no voice is free, every voice holds a reference. -/
theorem length_heldBy_of_noneFree
    {voices : List Voice}
    (wellFormed : ∀ voice ∈ voices, voice.WellFormed)
    (noneFree : ∀ voice ∈ voices, ¬ voice.isFree) :
    (heldBy voices).length = voices.length := by
  induction voices with
  | nil =>
      rfl
  | cons voice rest inductionHypothesis =>
      obtain ⟨source, held⟩ :=
        (wellFormed voice (by simp)).exists_source (noneFree voice (by simp))
      have others := inductionHypothesis
        (fun other member => wellFormed other (List.mem_cons_of_mem _ member))
        (fun other member => noneFree other (List.mem_cons_of_mem _ member))
      rw [heldBy_cons, held, List.length_append, others]
      simp
      omega

/-- A voice that is put in another's place brings its reference for the other's. -/
theorem heldBy_set
    {voices : List Voice}
    {slot : Nat}
    {old : Voice}
    (present : voices[slot]? = some old)
    (fresh : Voice) :
    (old.source?.toList ++ heldBy (voices.set slot fresh)).Perm
      (fresh.source?.toList ++ heldBy voices) := by
  induction voices generalizing slot with
  | nil =>
      cases present
  | cons voice rest inductionHypothesis =>
      cases slot with
      | zero =>
          cases present
          rw [List.set_cons_zero, heldBy_cons, heldBy_cons]
          exact List.perm_append_comm_assoc ..
      | succ slot =>
          rw [List.set_cons_succ, heldBy_cons, heldBy_cons]
          have others := inductionHypothesis present
          calc
            (old.source?.toList ++
                (voice.source?.toList ++ heldBy (rest.set slot fresh))).Perm
                (voice.source?.toList ++
                  (old.source?.toList ++ heldBy (rest.set slot fresh))) :=
              List.perm_append_comm_assoc ..
            List.Perm _
                (voice.source?.toList ++
                  (fresh.source?.toList ++ heldBy rest)) :=
              others.append_left _
            List.Perm _
                (fresh.source?.toList ++
                  (voice.source?.toList ++ heldBy rest)) :=
              List.perm_append_comm_assoc ..

/-- A voice that comes into a slot of another note is counted to its own. -/
theorem countP_sounds_set
    {voices : List Voice}
    {slot serial : Nat}
    {old fresh : Voice}
    (present : voices[slot]? = some old)
    (other : ¬ sounds serial old)
    (own : sounds serial fresh) :
    (voices.set slot fresh).countP (sounds serial) =
      voices.countP (sounds serial) + 1 := by
  obtain ⟨inside, isOld⟩ := List.getElem?_eq_some_iff.mp present
  rw [List.countP_set inside, isOld]
  simp [other, own]

/-! ## Releases keep all references -/

theorem heldBy_changeWhere
    {change : Voice → Voice}
    (keeps : ∀ voice : Voice, (change voice).source? = voice.source?)
    (condition : Voice → Bool)
    (pool : VoicePool) :
    heldBy (pool.changeWhere condition change).voices =
      heldBy pool.voices := by
  simp only [heldBy, changeWhere, List.filterMap_map]
  congr 1
  funext voice
  by_cases chosen : condition voice <;> simp [chosen, keeps]

/-! ## Blocks move references to the queue -/

variable [Transcendental]

theorem heldBy_blockEnd
    {voices : List Voice}
    (wellFormed : ∀ voice ∈ voices, voice.WellFormed)
    (frames : Nat)
    (channels : List Channel)
    (method : Interpolation) :
    (heldBy voices).Perm
      ((handedBack frames channels method voices).filterMap id ++
        heldBy
          (voices.map fun voice =>
            (voice.blockEnd frames channels method).2)) := by
  induction voices with
  | nil =>
      exact .nil
  | cons voice rest inductionHypothesis =>
      have others := inductionHypothesis fun other member =>
        wellFormed other (List.mem_cons_of_mem _ member)
      have first := wellFormed voice (by simp)
      have outlasts := first.outlasts frames channels method
      have cons :
          (handedBack frames channels method (voice :: rest)).filterMap id =
            (voice.blockEnd frames channels method).1.toList ++
              (handedBack frames channels method rest).filterMap id := by
        rw [handedBack, List.map_cons, List.filterMap_cons, ← handedBack]
        cases (voice.blockEnd frames channels method).1 <;> rfl
      rw [List.map_cons, heldBy_cons, heldBy_cons, cons]
      generalize voice.blockEnd frames channels method = outcome at outlasts ⊢
      cases outlasts with
      | rested free =>
          rw [first.source?_of_free free]
          exact others
      | ended notFree free lastWellFormed =>
          rw [lastWellFormed.source?_of_free free]
          simpa using others.append_left voice.source?.toList
      | continued notFree holding state lastWellFormed sounding =>
          rw [holding]
          exact (others.append_left _).trans
            (List.perm_append_comm_assoc ..)

/-- With room in the queue, a block moves references there, and loses none. -/
theorem render_moves
    {pool : VoicePool}
    (wellFormed : pool.WellFormed)
    (room : pool.references.length ≤ pool.retired.capacity)
    (frames : Nat)
    (channels : List Channel)
    (method : Interpolation) :
    ∃ moved,
      (pool.render frames channels method).2.retired =
          { pool.retired with parked := pool.retired.parked ++ moved } ∧
        (heldBy pool.voices).Perm
          (moved ++ heldBy (pool.render frames channels method).2.voices) := by
  have perm := heldBy_blockEnd wellFormed frames channels method
  have sameLength := perm.length_eq
  rw [List.length_append] at sameLength
  refine ⟨(handedBack frames channels method pool.voices).filterMap id,
    ?_, ?_⟩
  · rw [render_eq]
    apply ReclamationQueue.foldl_retire_eq
    simp only [references, List.length_append] at room
    omega
  · rw [render_eq]
    exact perm

end VoicePool

end Polyphony.Engine
