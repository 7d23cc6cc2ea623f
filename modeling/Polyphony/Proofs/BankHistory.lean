import Polyphony.Proofs.BankTable

namespace Polyphony.Engine

/-!
# The history of a bank table

What a table holds can be told from what it has answered.  A bank is loaded from
the insertion that gave out its handle until a removal hands it back, and the
handles that were given out are 1, 2, 3 and so on, whatever was removed between.
-/

open Instrument (Bank BankId)

/-- A call that changes a table of banks. -/
inductive BankCall where
  | insert (bank : Bank)
  | remove (id : BankId)
  deriving DecidableEq

/-- What a table answers to a call. -/
inductive BankAnswer where
  | inserted (id : BankId)
  | refused (error : SynthError)
  | removed (bank : Bank)
  | unknown
  deriving DecidableEq

/-- Calls and what was answered to them, the earliest first. -/
abbrev BankHistory := List (BankCall × BankAnswer)

namespace BankHistory

/-- The bank that a call has brought in, with the handle it was given. -/
def inserted? : BankCall × BankAnswer → Option BankReference
  | (.insert bank, .inserted id) => some ⟨id, bank⟩
  | _ => none

/-- The handle whose bank a call has taken out. -/
def removed? : BankCall × BankAnswer → Option BankId
  | (.remove id, .removed _) => some id
  | _ => none

/-- All banks that were ever brought in, with their handles. -/
def insertions (history : BankHistory) : List BankReference :=
  history.filterMap inserted?

/-- The handles of all banks that were taken out. -/
def removals (history : BankHistory) : List BankId :=
  history.filterMap removed?

/-- The banks that were brought in and not taken out, oldest first. -/
def surviving (history : BankHistory) : List BankReference :=
  history.insertions.filter fun entry => entry.id ∉ history.removals

@[simp] theorem insertions_append (earlier later : BankHistory) :
    insertions (earlier ++ later) = earlier.insertions ++ later.insertions :=
  List.filterMap_append

@[simp] theorem removals_append (earlier later : BankHistory) :
    removals (earlier ++ later) = earlier.removals ++ later.removals :=
  List.filterMap_append

end BankHistory

namespace BankTable

/-- Carry out a call.  One that is refused leaves the table as it is. -/
def carryOut
    (call : BankCall)
    (table : BankTable) :
    BankAnswer × BankTable :=
  match call with
  | .insert bank =>
      match table.insert bank with
      | .ok (id, after) => (.inserted id, after)
      | .error error => (.refused error, table)
  | .remove id =>
      match table.remove? id with
      | some (entry, after) => (.removed entry.bank, after)
      | none => (.unknown, table)

/-- Carry out some calls, one after the other, and keep their history. -/
def carryOutAll :
    List BankCall → BankTable → BankHistory × BankTable
  | [], table => ([], table)
  | call :: rest, table =>
      let (answer, after) := table.carryOut call
      let (later, last) := carryOutAll rest after
      ((call, answer) :: later, last)

/-! ## One call -/

/-- What becomes of a table by a call, and what the call is answered. -/
inductive Course (table : BankTable) :
    BankCall → BankAnswer → BankTable → Prop where
  | inserted (bank : Bank) :
      table.entries.length < table.limit →
      Course table (.insert bank) (.inserted ⟨table.nextNumber⟩)
        { table with
          entries := table.entries ++ [⟨⟨table.nextNumber⟩, bank⟩]
          nextNumber := table.nextNumber + 1 }
  | refused (bank : Bank) :
      table.limit ≤ table.entries.length →
      Course table (.insert bank) (.refused (.outOfBanks table.limit)) table
  | removed {id : BankId} {entry : BankReference} :
      table.get? id = some entry →
      Course table (.remove id) (.removed entry.bank)
        { table with entries := table.entries.eraseP (·.id = id) }
  | unknown (id : BankId) :
      table.get? id = none →
      Course table (.remove id) .unknown table

theorem course
    (call : BankCall)
    (table : BankTable) :
    table.Course call (table.carryOut call).1 (table.carryOut call).2 := by
  cases call with
  | insert bank =>
      by_cases full : table.limit ≤ table.entries.length
      · simp only [carryOut, insert, if_pos full]
        exact .refused bank full
      · simp only [carryOut, insert, if_neg full]
        exact .inserted bank (Nat.not_le.mp full)
  | remove id =>
      cases found : table.get? id with
      | none =>
          simp only [carryOut, remove?, found]
          exact .unknown id found
      | some entry =>
          simp only [carryOut, remove?, found]
          exact .removed found

/-! ## What a history tells of a table -/

/--
A table is what a history tells: its entries are the surviving banks, and its
handles have been numbered from one on, in the order of the insertions.
-/
structure Records
    (limit : Nat)
    (history : BankHistory)
    (table : BankTable) : Prop where
  sameLimit : table.limit = limit
  entries : table.entries = history.surviving
  bounded : table.entries.length ≤ limit
  next : table.nextNumber = history.insertions.length + 1
  numbered :
    history.insertions.map (·.id.number) =
      List.range' 1 history.insertions.length
  takenOut : ∀ id ∈ history.removals, id.number < table.nextNumber

namespace Records

variable {limit : Nat} {history : BankHistory} {table : BankTable}

theorem new (limit : Nat) : Records limit [] (.new limit) where
  sameLimit := rfl
  entries := rfl
  bounded := Nat.zero_le limit
  next := rfl
  numbered := rfl
  takenOut := by simp [BankHistory.removals]

/-- Handles have been given out in ascending order. -/
theorem ascending
    (records : Records limit history table) :
    history.insertions.Pairwise fun first second =>
      first.id.number < second.id.number := by
  have inOrder := List.pairwise_lt_range' (s := 1)
    (n := history.insertions.length)
  rw [← records.numbered] at inOrder
  exact List.pairwise_map.mp inOrder

/-- The number of every handle is one that has been given out. -/
theorem lt_next
    (records : Records limit history table)
    {entry : BankReference}
    (member : entry ∈ history.insertions) :
    entry.id.number < table.nextNumber := by
  have given : entry.id.number ∈ List.range' 1 history.insertions.length := by
    rw [← records.numbered]
    exact List.mem_map_of_mem member
  have inside := (List.mem_range'_1.mp given).2
  rw [records.next]
  omega

theorem wellFormed
    (records : Records limit history table) :
    table.WellFormed where
  ascending := by
    rw [records.entries]
    exact records.ascending.filter _
  givenOut := by
    intro entry member
    rw [records.entries] at member
    exact records.lt_next (List.mem_filter.mp member).1

/-- A handle leads to the bank that was inserted under it until that is removed. -/
theorem get?_eq_some_iff
    (records : Records limit history table)
    {id : BankId}
    {bank : Bank} :
    table.get? id = some ⟨id, bank⟩ ↔
      ⟨id, bank⟩ ∈ history.insertions ∧ id ∉ history.removals := by
  have surviving : ⟨id, bank⟩ ∈ table.entries ↔
      ⟨id, bank⟩ ∈ history.insertions ∧ id ∉ history.removals := by
    rw [records.entries]
    simp [BankHistory.surviving]
  rw [← surviving]
  exact ⟨fun found => (mem_of_get? found).1, records.wellFormed.get?_of_mem⟩

/-- A call that is not carried out leaves what the history tells. -/
theorem uneventful
    (records : Records limit history table)
    {call : BankCall}
    {answer : BankAnswer}
    (noneInserted : BankHistory.inserted? (call, answer) = none)
    (noneRemoved : BankHistory.removed? (call, answer) = none) :
    Records limit (history ++ [(call, answer)]) table := by
  have sameInsertions :
      BankHistory.insertions (history ++ [(call, answer)]) =
        history.insertions := by
    simp [BankHistory.insertions, noneInserted]
  have sameRemovals :
      BankHistory.removals (history ++ [(call, answer)]) =
        history.removals := by
    simp [BankHistory.removals, noneRemoved]
  exact {
    sameLimit := records.sameLimit
    entries := by
      rw [records.entries, BankHistory.surviving, BankHistory.surviving,
        sameInsertions, sameRemovals]
    bounded := records.bounded
    next := by rw [sameInsertions, records.next]
    numbered := by rw [sameInsertions, records.numbered]
    takenOut := by
      rw [sameRemovals]
      exact records.takenOut
  }

/-- A bank that comes in gets the next number, and none before has had it. -/
theorem inserted
    (records : Records limit history table)
    (bank : Bank)
    (room : table.entries.length < table.limit) :
    Records limit
      (history ++ [(.insert bank, .inserted ⟨table.nextNumber⟩)])
      { table with
        entries := table.entries ++ [⟨⟨table.nextNumber⟩, bank⟩]
        nextNumber := table.nextNumber + 1 } := by
  have insertions :
      BankHistory.insertions
          (history ++ [(.insert bank, .inserted ⟨table.nextNumber⟩)]) =
        history.insertions ++ [⟨⟨table.nextNumber⟩, bank⟩] :=
    BankHistory.insertions_append _ _
  have removals :
      BankHistory.removals
          (history ++ [(.insert bank, .inserted ⟨table.nextNumber⟩)]) =
        history.removals := by
    simp [BankHistory.removals, BankHistory.removed?]
  have fresh : (⟨table.nextNumber⟩ : BankId) ∉ history.removals :=
    fun member => Nat.lt_irrefl _ (records.takenOut _ member)
  exact {
    sameLimit := records.sameLimit
    entries := by
      rw [records.entries, BankHistory.surviving, BankHistory.surviving,
        insertions, removals, List.filter_append]
      simp [fresh]
    bounded := by
      rw [List.length_append, ← records.sameLimit]
      exact room
    next := by
      rw [insertions, List.length_append, records.next]
      rfl
    numbered := by
      rw [insertions, List.map_append, List.length_append, records.numbered,
        List.length_singleton, List.range'_concat, records.next]
      simp [Nat.add_comm]
    takenOut := by
      rw [removals]
      exact fun id member =>
        Nat.lt_succ_of_lt (records.takenOut id member)
  }

/-- A bank that goes out takes its handle with it, and no other bank. -/
theorem removed
    (records : Records limit history table)
    {id : BankId}
    {entry : BankReference}
    (found : table.get? id = some entry) :
    Records limit (history ++ [(.remove id, .removed entry.bank)])
      { table with entries := table.entries.eraseP (·.id = id) } := by
  have insertions :
      BankHistory.insertions
          (history ++ [(.remove id, .removed entry.bank)]) =
        history.insertions := by
    simp [BankHistory.insertions, BankHistory.inserted?]
  have removals :
      BankHistory.removals
          (history ++ [(.remove id, .removed entry.bank)]) =
        history.removals ++ [id] :=
    BankHistory.removals_append _ _
  obtain ⟨present, sameId⟩ := mem_of_get? found
  exact {
    sameLimit := records.sameLimit
    entries := by
      rw [records.wellFormed.eraseP_eq_filter, records.entries,
        BankHistory.surviving, BankHistory.surviving, insertions, removals,
        List.filter_filter]
      apply List.filter_congr
      intro other _
      simp [and_comm]
    bounded := Nat.le_trans List.length_eraseP_le records.bounded
    next := by rw [insertions, records.next]
    numbered := by rw [insertions, records.numbered]
    takenOut := by
      intro other member
      rw [removals, List.mem_append, List.mem_singleton] at member
      rcases member with before | isRemoved
      · exact records.takenOut other before
      · rw [isRemoved, ← sameId]
        exact records.wellFormed.givenOut entry present
  }

/-- A call leaves a table that the longer history tells. -/
theorem carryOut
    (records : Records limit history table)
    (call : BankCall) :
    Records limit (history ++ [(call, (table.carryOut call).1)])
      (table.carryOut call).2 := by
  have course := table.course call
  generalize (table.carryOut call).1 = answer at course ⊢
  generalize (table.carryOut call).2 = after at course ⊢
  cases course with
  | inserted bank room => exact records.inserted bank room
  | refused bank full => exact records.uneventful rfl rfl
  | removed found => exact records.removed found
  | unknown id absent => exact records.uneventful rfl rfl

/-- What is answered to any number of calls tells what the table has become. -/
theorem carryOutAll
    (records : Records limit history table)
    (calls : List BankCall) :
    Records limit (history ++ (table.carryOutAll calls).1)
      (table.carryOutAll calls).2 := by
  induction calls generalizing history table with
  | nil =>
      simpa [BankTable.carryOutAll] using records
  | cons call rest inductionHypothesis =>
      have later := inductionHypothesis (records.carryOut call)
      rw [List.append_assoc] at later
      exact later

/-- A bank is refused by a full table, which stays as it is, and by no other. -/
theorem insert_cases
    (records : Records limit history table)
    (bank : Bank) :
    (table.ids.length = limit ∧
        table.carryOut (.insert bank) =
          (.refused (.outOfBanks limit), table)) ∨
      (table.ids.length < limit ∧
        (table.carryOut (.insert bank)).1 =
          .inserted ⟨history.insertions.length + 1⟩) := by
  have sameLimit := records.sameLimit
  subst limit
  rw [ids, List.length_map]
  by_cases full : table.limit ≤ table.entries.length
  · refine .inl ⟨Nat.le_antisymm records.bounded full, ?_⟩
    simp only [BankTable.carryOut, insert, if_pos full]
  · refine .inr ⟨Nat.not_le.mp full, ?_⟩
    simp only [BankTable.carryOut, insert, if_neg full, records.next]

/-- A removal hands back exactly the bank that its handle leads to. -/
theorem removed_iff
    (records : Records limit history table)
    {id : BankId}
    {bank : Bank} :
    (table.carryOut (.remove id)).1 = .removed bank ↔
      ⟨id, bank⟩ ∈ history.insertions ∧ id ∉ history.removals := by
  have looksUp :
      (table.carryOut (.remove id)).1 = .removed bank ↔
        table.get? id = some ⟨id, bank⟩ := by
    cases found : table.get? id with
    | none => simp [BankTable.carryOut, remove?, found]
    | some entry =>
        obtain ⟨other, loaded⟩ := entry
        obtain ⟨-, sameId⟩ := mem_of_get? found
        subst id
        simp [BankTable.carryOut, remove?, found]
  rw [looksUp]
  exact records.get?_eq_some_iff

end Records

/--
A table of banks is a bounded map whose handles are never reused.  After any
calls, the insertions that succeeded have been answered by the handles 1, 2, 3
and so on; the table lists the surviving banks in the order in which they came,
under ascending handles below the next one; it refuses a bank exactly if it is
full, and is then unchanged; and a handle leads to a bank, for a look-up and for
a removal, exactly if the bank was inserted under it and not removed since.
-/
theorem calls_keep_a_bounded_map
    (limit : Nat)
    (calls : List BankCall) :
    let history := ((BankTable.new limit).carryOutAll calls).1
    let table := ((BankTable.new limit).carryOutAll calls).2
    history.insertions.map (·.id.number) =
        List.range' 1 history.insertions.length ∧
      (table.ids.Pairwise fun first second => first.number < second.number) ∧
      (∀ id ∈ table.ids, id.number < table.nextNumber) ∧
      table.ids.length ≤ limit ∧
      (∀ bank,
        (table.ids.length = limit ∧
            table.carryOut (.insert bank) =
              (.refused (.outOfBanks limit), table)) ∨
          (table.ids.length < limit ∧
            (table.carryOut (.insert bank)).1 =
              .inserted ⟨history.insertions.length + 1⟩)) ∧
      (∀ id bank,
        (table.get? id = some ⟨id, bank⟩ ↔
            ⟨id, bank⟩ ∈ history.insertions ∧ id ∉ history.removals) ∧
          ((table.carryOut (.remove id)).1 = .removed bank ↔
            ⟨id, bank⟩ ∈ history.insertions ∧ id ∉ history.removals)) ∧
      table.newestFirst = history.surviving.reverse := by
  intro history table
  have records : Records limit history table :=
    (Records.new limit).carryOutAll calls
  have sameLength : table.ids.length = table.entries.length :=
    List.length_map _
  refine ⟨records.numbered, ?_, ?_, ?_, records.insert_cases, ?_, ?_⟩
  · exact List.pairwise_map.mpr records.wellFormed.ascending
  · exact List.forall_mem_map.mpr records.wellFormed.givenOut
  · exact sameLength ▸ records.bounded
  · exact fun id bank =>
      ⟨records.get?_eq_some_iff, records.removed_iff⟩
  · rw [newestFirst, records.entries]

end BankTable

end Polyphony.Engine
