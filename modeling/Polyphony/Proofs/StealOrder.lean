import Mathlib.Data.Prod.Lex
import Polyphony.Proofs.VoiceLife

namespace Polyphony.Engine

/-!
# The order in which voices are stolen

A voice is stolen by whether its key is held, the serial of its note, its velocity
and its slot, the first of these counting most.  Steal keys are totally ordered by
them, and no two slots have the same key.  So there is one line in which all voices
stand, and the voice that is stolen for a note is the first in it of those that
sound another note.
-/

/-- Voices are stolen from the lowest rank on: `false` is below `true`. -/
def Voice.stealRank
    (slot : Nat)
    (voice : Voice) :
    Bool ×ₗ Nat ×ₗ Nat ×ₗ Nat :=
  toLex (voice.state.isHeld, toLex (voice.serial, toLex (voice.velocity, slot)))

namespace StealKey

variable {first second third : StealKey}

/-- The parts of a key, the first of which counts most. -/
def rank (key : StealKey) : Bool ×ₗ Nat ×ₗ Nat ×ₗ Nat :=
  toLex (key.held, toLex (key.serial, toLex (key.velocity, key.slot)))

/-- The key of a voice ranks it by its state, serial, velocity and slot. -/
theorem rank_stealKey
    (slot : Nat)
    (voice : Voice) :
    (voice.stealKey slot).rank = voice.stealRank slot := by
  rw [rank, Voice.stealRank, Voice.stealKey, Voice.isHeld_eq]

/-- Keys are stolen in the lexicographic order of their parts. -/
theorem precedes_iff_rank_lt :
    first.precedes second ↔ first.rank < second.rank := by
  simp only [rank, Prod.Lex.toLex_lt_toLex, precedes]
  cases first.held <;> cases second.held <;> simp <;> grind

theorem precedes_irrefl (key : StealKey) : ¬ key.precedes key := by
  simp [precedes]

theorem precedes_trans
    (earlier : first.precedes second)
    (later : second.precedes third) :
    first.precedes third := by
  unfold precedes at earlier later ⊢
  grind

/-- Of two keys one precedes the other, unless they are the same. -/
theorem precedes_or_eq_or_precedes
    (first second : StealKey) :
    first.precedes second ∨ first = second ∨ second.precedes first := by
  obtain ⟨held, serial, velocity, slot⟩ := first
  obtain ⟨otherHeld, otherSerial, otherVelocity, otherSlot⟩ := second
  unfold precedes
  grind

/-- What does not precede a key, nor one before that, is not before the latter. -/
theorem not_precedes_trans
    (earlier : ¬ second.precedes first)
    (later : ¬ third.precedes second) :
    ¬ third.precedes first := by
  intro wrong
  rcases precedes_or_eq_or_precedes second third with before | same | after
  · exact earlier (precedes_trans before wrong)
  · exact earlier (same ▸ wrong)
  · exact later after

end StealKey

namespace VoicePool

/-! ## Slots -/

/-- The voices of which a condition holds, with their slots. -/
def slotsWhere
    (condition : Voice → Bool)
    (pool : VoicePool) :
    List (Voice × Nat) :=
  pool.voices.zipIdx.filter fun entry => condition entry.1

theorem mem_slotsWhere
    {condition : Voice → Bool}
    {pool : VoicePool}
    {entry : Voice × Nat} :
    entry ∈ pool.slotsWhere condition ↔
      pool.voices[entry.2]? = some entry.1 ∧ condition entry.1 := by
  rw [slotsWhere, List.mem_filter, List.mem_zipIdx_iff_getElem?]

/-- Slots are listed from the lowest on. -/
theorem ascending_slotsWhere
    (condition : Voice → Bool)
    (pool : VoicePool) :
    ((pool.slotsWhere condition).map (·.2)).Pairwise (· < ·) := by
  have all : (pool.voices.zipIdx.map (·.2)).Pairwise (· < ·) := by
    rw [List.zipIdx_map_snd]
    exact List.pairwise_lt_range'
  exact all.sublist (List.filter_sublist.map _)

/-- No slot is listed twice. -/
theorem nodup_slotsWhere
    (condition : Voice → Bool)
    (pool : VoicePool) :
    ((pool.slotsWhere condition).map (·.2)).Nodup :=
  (pool.ascending_slotsWhere condition).imp Nat.ne_of_lt

/-! ## Lines -/

/-- Whether the voice of one slot is stolen before that of another. -/
def stolenBefore (first second : Voice × Nat) : Bool :=
  (first.1.stealKey first.2).precedes (second.1.stealKey second.2)

/-- A voice is stolen before another one exactly if it has the lower rank. -/
theorem stolenBefore_iff {first second : Voice × Nat} :
    stolenBefore first second ↔
      first.1.stealRank first.2 < second.1.stealRank second.2 := by
  rw [stolenBefore, StealKey.precedes_iff_rank_lt, StealKey.rank_stealKey,
    StealKey.rank_stealKey]

/-- Some voices, with their slots, in the order in which they are stolen. -/
def lineUp (entries : List (Voice × Nat)) : List (Voice × Nat) :=
  entries.mergeSort fun first second => !stolenBefore second first

theorem lineUp_perm (entries : List (Voice × Nat)) :
    (lineUp entries).Perm entries :=
  List.mergeSort_perm entries _

/-- Voices of different slots stand one before the other. -/
theorem stolenBefore_of_slot_ne
    {first second : Voice × Nat}
    (differ : first.2 ≠ second.2)
    (notAfter : ¬ stolenBefore second first) :
    stolenBefore first second := by
  rcases StealKey.precedes_or_eq_or_precedes
      (first.1.stealKey first.2) (second.1.stealKey second.2) with
    before | same | after
  · exact before
  · exact absurd (congrArg StealKey.slot same) differ
  · exact absurd after notAfter

/-- Whoever is further ahead in a line is stolen before. -/
theorem pairwise_lineUp
    {entries : List (Voice × Nat)}
    (distinct : (entries.map (·.2)).Nodup) :
    (lineUp entries).Pairwise fun first second => stolenBefore first second := by
  have transitive :
      ∀ first second third : Voice × Nat,
        (!stolenBefore second first) →
        (!stolenBefore third second) →
        (!stolenBefore third first) := by
    intro first second third earlier later
    simp only [Bool.not_eq_true', Bool.eq_false_iff] at earlier later ⊢
    exact StealKey.not_precedes_trans earlier later
  have total :
      ∀ first second : Voice × Nat,
        (!stolenBefore second first || !stolenBefore first second) := by
    intro first second
    cases before : stolenBefore first second with
    | false => simp
    | true =>
        have notAfter : ¬ stolenBefore second first := fun after =>
          StealKey.precedes_irrefl _ (StealKey.precedes_trans before after)
        simp [notAfter]
  have sorted : (lineUp entries).Pairwise fun first second =>
      ¬ stolenBefore second first :=
    (List.pairwise_mergeSort transitive total entries).imp
      fun notAfter => by simpa using notAfter
  have differ : (lineUp entries).Pairwise fun first second =>
      first.2 ≠ second.2 := by
    have distinctInLine : ((lineUp entries).map (·.2)).Nodup :=
      ((lineUp_perm entries).map _).nodup_iff.mpr distinct
    exact List.pairwise_map.mp distinctInLine
  exact (sorted.and differ).imp fun ⟨notAfter, slots⟩ =>
    stolenBefore_of_slot_ne slots notAfter

/-! ## Victims -/

/-- The voices that a note may steal from, with their slots. -/
def stealable
    (serial : Nat)
    (pool : VoicePool) :
    List (Voice × Nat) :=
  pool.slotsWhere fun voice => voice.serial ≠ serial

/-- A search for the first voice in line finds one that none is before. -/
theorem foldl_firstStolen
    (best : Voice × Nat)
    (rest : List (Voice × Nat)) :
    ∃ chosen,
      rest.foldl firstStolen (some best) = some chosen ∧
        chosen ∈ best :: rest ∧
        ∀ other ∈ best :: rest, ¬ stolenBefore other chosen := by
  induction rest generalizing best with
  | nil =>
      refine ⟨best, rfl, List.mem_singleton_self best, ?_⟩
      intro other member
      rw [List.mem_singleton.mp member]
      exact StealKey.precedes_irrefl _
  | cons candidate rest inductionHypothesis =>
      by_cases before : stolenBefore candidate best
      · have better : firstStolen (some best) candidate = some candidate :=
          if_pos before
        obtain ⟨chosen, folded, member, first⟩ := inductionHypothesis candidate
        refine ⟨chosen, ?_, List.mem_cons_of_mem best member, ?_⟩
        · rw [List.foldl_cons, better, folded]
        · intro other otherMember
          rcases List.mem_cons.mp otherMember with isBest | later
          · subst other
            intro wrong
            exact first candidate List.mem_cons_self
              (StealKey.precedes_trans before wrong)
          · exact first other later
      · have noBetter : firstStolen (some best) candidate = some best :=
          if_neg before
        obtain ⟨chosen, folded, member, first⟩ := inductionHypothesis best
        refine ⟨chosen, by rw [List.foldl_cons, noBetter, folded], ?_, ?_⟩
        · rcases List.mem_cons.mp member with isBest | later
          · exact isBest ▸ List.mem_cons_self
          · exact List.mem_cons_of_mem best (List.mem_cons_of_mem candidate later)
        · intro other otherMember
          rcases List.mem_cons.mp otherMember with isBest | later
          · exact first other (isBest ▸ List.mem_cons_self)
          · rcases List.mem_cons.mp later with isCandidate | further
            · subst other
              exact StealKey.not_precedes_trans (first best List.mem_cons_self)
                before
            · exact first other (List.mem_cons_of_mem best further)

/-- The victim for a note is the first in line of those that it may steal from. -/
theorem victim?_eq_head?
    {serial : Nat}
    {pool : VoicePool}
    {line : List (Voice × Nat)}
    (listed : line.Perm (pool.stealable serial))
    (inLine : line.Pairwise fun first second => stolenBefore first second) :
    pool.victim? serial = line.head? := by
  have victim : pool.victim? serial =
      (pool.stealable serial).foldl firstStolen none := rfl
  rw [victim]
  cases candidates : pool.stealable serial with
  | nil =>
      rw [candidates] at listed
      rw [listed.eq_nil]
      rfl
  | cons candidate rest =>
      rw [candidates] at listed
      obtain ⟨chosen, folded, member, notBefore⟩ :=
        foldl_firstStolen candidate rest
      have chosenInLine : chosen ∈ line := listed.mem_iff.mpr member
      cases line with
      | nil => cases chosenInLine
      | cons first others =>
          rw [List.head?_cons, List.foldl_cons]
          refine folded.trans (congrArg some ?_)
          rcases List.mem_cons.mp chosenInLine with isFirst | later
          · exact isFirst
          · have before := (List.pairwise_cons.mp inLine).1 chosen later
            have firstListed := listed.mem_iff.mp List.mem_cons_self
            exact absurd before (notBefore first firstListed)

end VoicePool

end Polyphony.Engine
