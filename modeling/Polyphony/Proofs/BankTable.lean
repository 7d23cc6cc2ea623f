import Polyphony.Engine.BankTable

namespace Polyphony.Engine

/-!
# Handles of loaded banks

Handles are given out in ascending order, so the entries of a table stand in
the order of their handles, and the next handle lies beyond all of them.  A
look-up therefore finds the only entry of its handle, and neither an insertion
nor the removal of another bank changes what it finds.
-/

open Instrument (Bank BankId)

namespace BankTable

/-- Entries are ordered by their handles, which have all been given out. -/
structure WellFormed (table : BankTable) : Prop where
  ascending :
    table.entries.Pairwise fun first second =>
      first.id.number < second.id.number
  givenOut :
    ∀ entry ∈ table.entries, entry.id.number < table.nextNumber

/-- What an insertion that succeeds answers, and the table after it. -/
theorem insert_eq_ok
    {bank : Bank}
    {table after : BankTable}
    {id : BankId}
    (inserted : table.insert bank = .ok (id, after)) :
    id = ⟨table.nextNumber⟩ ∧
      after =
        { table with
          entries := table.entries ++ [⟨⟨table.nextNumber⟩, bank⟩]
          nextNumber := table.nextNumber + 1 } := by
  unfold insert at inserted
  split at inserted
  · cases inserted
  · cases inserted
    exact ⟨rfl, rfl⟩

/-- An entry that is found is in the table, under the handle asked for. -/
theorem mem_of_get?
    {id : BankId}
    {table : BankTable}
    {entry : BankReference}
    (found : table.get? id = some entry) :
    entry ∈ table.entries ∧ entry.id = id := by
  refine ⟨List.mem_of_find?_eq_some found, ?_⟩
  simpa using List.find?_some found

/-- A handle is not found exactly if no entry has it. -/
theorem get?_eq_none_iff
    {id : BankId}
    {table : BankTable} :
    table.get? id = none ↔ ¬ ∃ entry ∈ table.entries, entry.id = id := by
  simp [get?]

theorem remove?_eq_some
    {id : BankId}
    {table after : BankTable}
    {entry : BankReference}
    (removed : table.remove? id = some (entry, after)) :
    table.get? id = some entry ∧
      after =
        { table with entries := table.entries.eraseP (·.id = id) } := by
  simp only [remove?, Option.map_eq_some_iff, Prod.mk.injEq] at removed
  obtain ⟨found, lookedUp, same, afterShape⟩ := removed
  subst found
  exact ⟨lookedUp, afterShape.symm⟩

theorem get?_of_insert
    {bank : Bank}
    {table after : BankTable}
    {inserted id : BankId}
    {entry : BankReference}
    (insertion : table.insert bank = .ok (inserted, after))
    (found : table.get? id = some entry) :
    after.get? id = some entry := by
  obtain ⟨-, afterShape⟩ := insert_eq_ok insertion
  subst after
  rw [get?] at found ⊢
  simp [List.find?_append, found]

/-- Looking up another handle is not affected by a removal. -/
theorem get?_of_remove?
    {table after : BankTable}
    {removed id : BankId}
    {entry : BankReference}
    (removal : table.remove? removed = some (entry, after))
    (other : id ≠ removed) :
    after.get? id = table.get? id := by
  obtain ⟨-, afterShape⟩ := remove?_eq_some removal
  subst after
  simp only [get?]
  induction table.entries with
  | nil =>
      rfl
  | cons first rest inductionHypothesis =>
      by_cases isRemoved : first.id = removed
      · simp [isRemoved, Ne.symm other]
      · by_cases wanted : first.id = id
        · simp [wanted, other]
        · simp [isRemoved, wanted, inductionHypothesis]

/-- A removal takes out the entry it answers, and nothing else. -/
theorem perm_of_remove?
    {table after : BankTable}
    {id : BankId}
    {entry : BankReference}
    (removal : table.remove? id = some (entry, after)) :
    table.entries.Perm (entry :: after.entries) := by
  obtain ⟨found, afterShape⟩ := remove?_eq_some removal
  obtain ⟨matching, earlier, later, entriesShape, noneEarlier⟩ :=
    List.find?_eq_some_iff_append.mp found
  have noMatch :
      ∀ other ∈ earlier, ¬ (decide (other.id = id) = true) := by
    intro other member
    simpa using noneEarlier other member
  have restShape :
      table.entries.eraseP (·.id = id) = earlier ++ later := by
    rw [entriesShape, List.eraseP_append_right _ noMatch]
    simp [of_decide_eq_true matching]
  subst after
  rw [restShape, entriesShape]
  exact List.perm_middle

namespace WellFormed

theorem new (limit : Nat) : (BankTable.new limit).WellFormed where
  ascending := .nil
  givenOut := by simp [BankTable.new]

/-- Two entries of one handle are the same entry. -/
theorem eq_of_id_eq
    {table : BankTable}
    (wellFormed : table.WellFormed)
    {first second : BankReference}
    (firstMember : first ∈ table.entries)
    (secondMember : second ∈ table.entries)
    (same : first.id = second.id) :
    first = second := by
  have distinct :
      table.entries.Pairwise fun one other =>
        one.id = other.id → one = other :=
    wellFormed.ascending.imp fun ordered sameId => by
      rw [sameId] at ordered
      exact (Nat.lt_irrefl _ ordered).elim
  have distinctBackwards :
      table.entries.Pairwise
        (flip fun one other => one.id = other.id → one = other) :=
    distinct.imp fun unique sameId => (unique sameId.symm).symm
  exact distinct.forall_of_forall_of_flip
    (fun _ _ _ => rfl)
    distinctBackwards
    firstMember
    secondMember
    same

/-- To take out the first entry of a handle is to take out all of them. -/
theorem eraseP_eq_filter
    {table : BankTable}
    (wellFormed : table.WellFormed)
    (id : BankId) :
    table.entries.eraseP (·.id = id) = table.entries.filter (·.id ≠ id) := by
  have ascending := wellFormed.ascending
  generalize table.entries = entries at ascending ⊢
  induction entries with
  | nil => rfl
  | cons first rest inductionHypothesis =>
      obtain ⟨below, others⟩ := List.pairwise_cons.mp ascending
      by_cases isFirst : first.id = id
      · have othersStay : ∀ entry ∈ rest, entry.id ≠ id := by
          intro entry member sameId
          have ordered := below entry member
          rw [isFirst, sameId] at ordered
          exact Nat.lt_irrefl _ ordered
        have allStay : rest.filter (·.id ≠ id) = rest :=
          List.filter_eq_self.mpr (by simpa using othersStay)
        simpa [isFirst] using allStay.symm
      · simp [isFirst, inductionHypothesis others]

/-- Every entry is the one that its handle is looked up to. -/
theorem get?_of_mem
    {table : BankTable}
    (wellFormed : table.WellFormed)
    {entry : BankReference}
    (member : entry ∈ table.entries) :
    table.get? entry.id = some entry := by
  cases lookedUp : table.get? entry.id with
  | none =>
      have absent := List.find?_eq_none.mp lookedUp entry member
      simp at absent
  | some found =>
      obtain ⟨foundMember, sameId⟩ := mem_of_get? lookedUp
      rw [wellFormed.eq_of_id_eq foundMember member sameId]

theorem insert
    {bank : Bank}
    {table after : BankTable}
    {id : BankId}
    (wellFormed : table.WellFormed)
    (insertion : table.insert bank = .ok (id, after)) :
    after.WellFormed := by
  obtain ⟨-, afterShape⟩ := insert_eq_ok insertion
  subst after
  constructor
  · simp only [List.pairwise_append, List.pairwise_singleton,
      List.mem_singleton, true_and]
    refine ⟨wellFormed.ascending, ?_⟩
    intro entry member last lastIsNew
    subst last
    exact wellFormed.givenOut entry member
  · intro entry member
    rcases List.mem_append.mp member with present | isNew
    · exact Nat.lt_succ_of_lt (wellFormed.givenOut entry present)
    · rw [List.mem_singleton.mp isNew]
      exact Nat.lt_succ_self table.nextNumber

/-- A removal keeps the table in order. -/
theorem remove?
    {table after : BankTable}
    {id : BankId}
    {entry : BankReference}
    (wellFormed : table.WellFormed)
    (removal : table.remove? id = some (entry, after)) :
    after.WellFormed := by
  obtain ⟨-, afterShape⟩ := remove?_eq_some removal
  subst after
  exact {
    ascending := wellFormed.ascending.eraseP _
    givenOut := fun entry member =>
      wellFormed.givenOut entry (List.mem_of_mem_eraseP member)
  }

theorem get?_inserted
    {bank : Bank}
    {table after : BankTable}
    {id : BankId}
    (wellFormed : table.WellFormed)
    (insertion : table.insert bank = .ok (id, after)) :
    after.get? id = some ⟨id, bank⟩ := by
  obtain ⟨idShape, afterShape⟩ := insert_eq_ok insertion
  have member : (⟨id, bank⟩ : BankReference) ∈ after.entries := by
    subst id after
    simp
  exact (wellFormed.insert insertion).get?_of_mem member

/-- A bank that is taken out is not found any more. -/
theorem get?_removed
    {table after : BankTable}
    {id : BankId}
    {entry : BankReference}
    (wellFormed : table.WellFormed)
    (removal : table.remove? id = some (entry, after)) :
    after.get? id = none := by
  have distinct :
      table.entries.Pairwise fun first second => first.id ≠ second.id :=
    wellFormed.ascending.imp fun ordered same => by
      rw [same] at ordered
      exact Nat.lt_irrefl _ ordered
  have otherIds :
      ∀ other ∈ after.entries, entry.id ≠ other.id :=
    (List.pairwise_cons.mp
      ((perm_of_remove? removal).pairwise distinct Ne.symm)).1
  have entryId := (mem_of_get? (remove?_eq_some removal).1).2
  rw [get?, List.find?_eq_none]
  intro other member
  have different := otherIds other member
  rw [entryId] at different
  simpa using Ne.symm different

end WellFormed

end BankTable

end Polyphony.Engine
