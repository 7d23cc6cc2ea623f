import Polyphony.Instrument.Matching
import Mathlib.Data.List.Induction
import Mathlib.Data.Prod.Lex
import Mathlib.Order.Bounds.Basic

/-!
# What a directory lists

After every preset that is entered, a directory tells of the presets so far
where the first of each address stands, where the lowest playable one of each
program does, and where the first playable one does.  So it does of all presets
of a bank.
-/

namespace Polyphony.Instrument

/-- The places of the playable presets of a program, by bank number first. -/
def playablePlaces
    (program : Nat)
    (presets : List Preset) :
    Set (ℕ ×ₗ ℕ) :=
  { place |
    ∃ preset,
      presets[(ofLex place).2]? = some preset ∧
        preset.bankNumber = (ofLex place).1 ∧
        preset.program = program ∧
        preset.isPlayable }

/-- The place of a preset that is listed under its program. -/
def ProgramEntry.place (entry : ProgramEntry) : ℕ ×ₗ ℕ :=
  toLex (entry.bankNumber, entry.index)

theorem ProgramEntry.place_injective : ProgramEntry.place.Injective := by
  intro first second same
  cases first
  cases second
  simpa [place] using same

/-- The least of some places is listed, or nothing where there are none. -/
def ListsLeast (places : Set (ℕ ×ₗ ℕ)) : Option ProgramEntry → Prop
  | none => places = ∅
  | some entry => IsLeast places entry.place

theorem ListsLeast.eq_some_iff
    {places : Set (ℕ ×ₗ ℕ)}
    {listed? : Option ProgramEntry}
    (lists : ListsLeast places listed?)
    {entry : ProgramEntry} :
    listed? = some entry ↔ IsLeast places entry.place := by
  cases listed? with
  | none =>
      have isEmpty : places = ∅ := lists
      simp [isEmpty, IsLeast]
  | some listed =>
      have isLeast : IsLeast places listed.place := lists
      constructor
      · intro same
        cases same
        exact isLeast
      · intro entryLeast
        rw [ProgramEntry.place_injective (isLeast.unique entryLeast)]

theorem mem_playablePlaces_lt
    {program : Nat}
    {presets : List Preset}
    {place : ℕ ×ₗ ℕ}
    (member : place ∈ playablePlaces program presets) :
    (ofLex place).2 < presets.length := by
  obtain ⟨preset, present, -⟩ := member
  exact (List.getElem?_eq_some_iff.mp present).1

/-- One more preset adds its own place, or none. -/
theorem playablePlaces_append
    (program : Nat)
    (presets : List Preset)
    (preset : Preset) :
    playablePlaces program (presets ++ [preset]) =
      if preset.program = program ∧ preset.isPlayable then
        playablePlaces program presets ∪
          {toLex (preset.bankNumber, presets.length)}
      else
        playablePlaces program presets := by
  ext place
  have isNew :
      (∃ added,
        (presets ++ [preset])[(ofLex place).2]? = some added ∧
          added.bankNumber = (ofLex place).1 ∧
          added.program = program ∧
          added.isPlayable) ↔
        place ∈ playablePlaces program presets ∨
          ((ofLex place).2 = presets.length ∧
            preset.bankNumber = (ofLex place).1 ∧
            preset.program = program ∧
            preset.isPlayable) := by
    simp only [playablePlaces, Set.mem_ofPred_eq]
    rcases Nat.lt_trichotomy (ofLex place).2 presets.length with
      before | same | after
    · rw [List.getElem?_append_left before]
      simp [before.ne]
    · simp [same]
    · rw [List.getElem?_eq_none (by simp; omega),
        List.getElem?_eq_none (by omega)]
      simp [after.ne']
  change (∃ added, _) ↔ _
  rw [isNew]
  split
  · rename_i counts
    simp only [counts, and_true, Set.mem_union, Set.mem_singleton_iff]
    refine or_congr_right ⟨?_, ?_⟩
    · rintro ⟨index, bankNumber⟩
      rw [← index, bankNumber]
      rfl
    · rintro rfl
      exact ⟨rfl, rfl⟩
  · rename_i ignored
    simp only [or_iff_left_iff_imp]
    rintro ⟨-, -, sameProgram, playable⟩
    exact absurd ⟨sameProgram, playable⟩ ignored

namespace Directory

/-- The directory lists some presets: each table tells of all of them. -/
structure Lists
    (presets : List Preset)
    (directory : Directory) : Prop where
  addresses :
    ∀ bankNumber program,
      directory.addresses.lookup (bankNumber, program) =
        presets.findIdx? (Preset.hasAddress bankNumber program)
  programs :
    ∀ program,
      ListsLeast (playablePlaces program presets)
        (directory.programs.lookup program)
  firstPlayable :
    directory.firstPlayable? = presets.findIdx? Preset.isPlayable

theorem lists_empty : empty.Lists [] where
  addresses := fun _ _ => rfl
  programs := fun _ => by simp [empty, ListsLeast, playablePlaces]
  firstPlayable := rfl

/-- What is found under an address after one more preset is listed. -/
theorem lookup_enterAddress
    (preset : Preset)
    (index bankNumber program : Nat)
    (addresses : List ((Nat × Nat) × Nat)) :
    (enterAddress preset index addresses).lookup (bankNumber, program) =
      (addresses.lookup (bankNumber, program)).or
        (if preset.hasAddress bankNumber program then some index else none) := by
  unfold enterAddress
  dsimp only
  by_cases own : preset.hasAddress bankNumber program
  · simp only [Preset.hasAddress, Bool.and_eq_true, decide_eq_true_eq] at own
    obtain ⟨rfl, rfl⟩ := own
    cases listed :
        addresses.lookup (preset.bankNumber, preset.program) with
    | none => simp [Preset.hasAddress]
    | some first => simp [listed]
  · have other :
        ((bankNumber, program) == (preset.bankNumber, preset.program)) =
          false := by
      simp only [Preset.hasAddress, Bool.and_eq_true, decide_eq_true_eq] at own
      rw [beq_eq_false_iff_ne]
      rintro same
      cases same
      exact own ⟨rfl, rfl⟩
    rw [if_neg own, Option.or_none]
    split
    · rfl
    · rw [List.lookup_cons, other]

/-- What is found under a program that one more preset does not have. -/
theorem lookup_enterProgram_of_ne
    {preset : Preset}
    {program : Nat}
    (other : preset.program ≠ program)
    (index : Nat)
    (programs : List (Nat × ProgramEntry)) :
    (enterProgram preset index programs).lookup program =
      programs.lookup program := by
  unfold enterProgram
  dsimp only
  split
  · rw [List.lookup_cons, beq_eq_false_iff_ne.mpr (Ne.symm other)]
  · rfl

/-- Under the program of one more playable preset, the least place stays listed. -/
theorem listsLeast_enterProgram
    {preset : Preset}
    {presets : List Preset}
    {programs : List (Nat × ProgramEntry)}
    (lists :
      ListsLeast (playablePlaces preset.program presets)
        (programs.lookup preset.program)) :
    ListsLeast
      (playablePlaces preset.program presets ∪
        {toLex (preset.bankNumber, presets.length)})
      ((enterProgram preset presets.length programs).lookup
        preset.program) := by
  unfold enterProgram
  dsimp only
  cases listed : programs.lookup preset.program with
  | none =>
      rw [listed] at lists
      have isEmpty : playablePlaces preset.program presets = ∅ := lists
      rw [isEmpty, Set.empty_union]
      simp [ListsLeast, ProgramEntry.place]
  | some entry =>
      rw [listed] at lists
      have isLeast :
          IsLeast (playablePlaces preset.program presets) entry.place :=
        lists
      have earlier : entry.index < presets.length :=
        mem_playablePlaces_lt isLeast.1
      have union :=
        isLeast.union
          (isLeast_singleton
            (a := toLex (preset.bankNumber, presets.length)))
      by_cases lower : preset.bankNumber < entry.bankNumber
      · have below :
            toLex (preset.bankNumber, presets.length) < entry.place :=
          Prod.Lex.toLex_lt_toLex.mpr (.inl lower)
        rw [min_eq_right below.le] at union
        simpa [lower, ListsLeast, ProgramEntry.place] using union
      · have above :
            entry.place ≤ toLex (preset.bankNumber, presets.length) :=
          Prod.Lex.toLex_le_toLex.mpr
            ((Nat.not_lt.mp lower).lt_or_eq.imp_right (⟨·, earlier.le⟩))
        rw [min_eq_left above] at union
        simpa [lower, listed, ListsLeast] using union

/-- The directory of some presets lists one more that is entered after them. -/
theorem Lists.enter
    {presets : List Preset}
    {directory : Directory}
    (lists : directory.Lists presets)
    (preset : Preset) :
    (directory.enter (preset, presets.length)).Lists (presets ++ [preset]) := by
  have addressed :
      ∀ bankNumber program,
        (enterAddress preset presets.length directory.addresses).lookup
            (bankNumber, program) =
          (presets ++ [preset]).findIdx?
            (Preset.hasAddress bankNumber program) := by
    intro bankNumber program
    rw [lookup_enterAddress, lists.addresses, List.findIdx?_append]
    by_cases own : preset.hasAddress bankNumber program <;>
      simp [own, List.findIdx?_cons]
  unfold Directory.enter
  dsimp only
  split
  · rename_i playable
    refine ⟨addressed, ?_, ?_⟩
    · intro program
      rw [playablePlaces_append]
      by_cases same : preset.program = program
      · subst program
        rw [if_pos ⟨rfl, playable⟩]
        exact listsLeast_enterProgram (lists.programs preset.program)
      · rw [if_neg fun both => same both.1, lookup_enterProgram_of_ne same]
        exact lists.programs program
    · simp [lists.firstPlayable, List.findIdx?_append, List.findIdx?_cons,
        playable]
  · rename_i silent
    refine ⟨addressed, ?_, ?_⟩
    · intro program
      rw [playablePlaces_append, if_neg fun both => silent both.2]
      exact lists.programs program
    · simp [lists.firstPlayable, List.findIdx?_append, List.findIdx?_cons,
        silent]

/-- The directory that is made of some presets lists all of them. -/
theorem lists_ofPresets (presets : List Preset) :
    (ofPresets presets).Lists presets := by
  induction presets using List.reverseRecOn with
  | nil => exact lists_empty
  | append_singleton presets preset inductionHypothesis =>
      unfold ofPresets at inductionHypothesis ⊢
      rw [List.zipIdx_append, List.foldl_append]
      simpa using inductionHypothesis.enter preset

end Directory

namespace Bank

theorem lists_directory (bank : Bank) : bank.directory.Lists bank.presets := by
  rw [bank.isListed]
  exact Directory.lists_ofPresets bank.presets

/-- The preset of an address is the first that has it. -/
theorem presetIndex?_eq_findIdx?
    (bankNumber program : Nat)
    (bank : Bank) :
    bank.presetIndex? bankNumber program =
      bank.presets.findIdx? (Preset.hasAddress bankNumber program) :=
  bank.lists_directory.addresses bankNumber program

/-- Where anything playable does, the first that is playable is found. -/
theorem firstPlayable?_eq_findIdx? (bank : Bank) :
    bank.firstPlayable? = bank.presets.findIdx? Preset.isPlayable :=
  bank.lists_directory.firstPlayable

/-- A program falls back to the least place of a playable preset that has it. -/
theorem programFallback?_eq_some_iff
    {program index : Nat}
    {bank : Bank} :
    bank.programFallback? program = some index ↔
      ∃ bankNumber,
        IsLeast (playablePlaces program bank.presets)
          (toLex (bankNumber, index)) := by
  have lists := bank.lists_directory.programs program
  rw [programFallback?, Option.map_eq_some_iff]
  constructor
  · rintro ⟨entry, listed, rfl⟩
    exact ⟨entry.bankNumber, lists.eq_some_iff.mp listed⟩
  · rintro ⟨bankNumber, isLeast⟩
    exact ⟨⟨bankNumber, index⟩, lists.eq_some_iff.mpr isLeast, rfl⟩

end Bank

end Polyphony.Instrument
