import Polyphony.Engine.Programs
import Polyphony.Proofs.BankTable
import Polyphony.Proofs.Directory

/-!
# What a search finds

Every position that a bank answers with is the position of one of its presets,
and a search across banks answers with a preset of one of the banks searched.
-/

namespace Polyphony.Instrument

namespace Bank

/-- The preset of an address is a preset of the bank. -/
theorem lt_of_presetIndex?
    {bankNumber program index : Nat}
    {bank : Bank}
    (found : bank.presetIndex? bankNumber program = some index) :
    index < bank.presets.length := by
  rw [presetIndex?_eq_findIdx?] at found
  obtain ⟨inside, -⟩ := List.findIdx?_eq_some_iff_getElem.mp found
  exact inside

/-- No preset is found exactly if none has the address. -/
theorem presetIndex?_eq_none_iff
    {bankNumber program : Nat}
    {bank : Bank} :
    bank.presetIndex? bankNumber program = none ↔
      ¬ ∃ preset ∈ bank.presets,
        preset.bankNumber = bankNumber ∧ preset.program = program := by
  simp [presetIndex?_eq_findIdx?, Preset.hasAddress]

/-- The first preset that sounds is a preset of the bank. -/
theorem lt_of_firstPlayable?
    {index : Nat}
    {bank : Bank}
    (found : bank.firstPlayable? = some index) :
    index < bank.presets.length := by
  rw [firstPlayable?_eq_findIdx?] at found
  obtain ⟨inside, -⟩ := List.findIdx?_eq_some_iff_getElem.mp found
  exact inside

/-- The preset that a program falls back to is a preset of the bank. -/
theorem lt_of_programFallback?
    {program index : Nat}
    {bank : Bank}
    (found : bank.programFallback? program = some index) :
    index < bank.presets.length := by
  obtain ⟨bankNumber, isLeast⟩ := programFallback?_eq_some_iff.mp found
  exact mem_playablePlaces_lt isLeast.1

end Bank

/-- The best preset of a bank is a preset of the bank. -/
theorem lt_of_matchIn?
    {bankNumber program index : Nat}
    {quality : MatchQuality}
    {bank : Bank}
    (found : matchIn? bankNumber program bank = some (index, quality)) :
    index < bank.presets.length := by
  unfold matchIn? at found
  split at found
  · rename_i own? addressed
    cases found
    exact Bank.lt_of_presetIndex? addressed
  · split at found
    · rename_i same? fallback
      cases found
      exact Bank.lt_of_programFallback? fallback
    · simp only [Option.map_eq_some_iff, Prod.mk.injEq] at found
      obtain ⟨first, playable, same, -⟩ := found
      subst first
      exact Bank.lt_of_firstPlayable? playable

end Polyphony.Instrument

namespace Polyphony.Engine

open Instrument (Match lt_of_matchIn?)

/-- The answer of a bank names the bank and one of its presets. -/
theorem candidate?_eq_some
    {bankNumber program : Nat}
    {entry : BankReference}
    {found : Match}
    (answered : candidate? bankNumber program entry = some found) :
    found.bankId = entry.id ∧
      found.preset < entry.bank.presets.length := by
  simp only [candidate?, Option.map_eq_some_iff] at answered
  obtain ⟨⟨index, quality⟩, matched, shape⟩ := answered
  subst found
  exact ⟨rfl, lt_of_matchIn? matched⟩

/-- A search ends with what it started with, or with the answer of a bank. -/
theorem searchBanks_eq_some
    {bankNumber program : Nat}
    {best? : Option Match}
    {entries : List BankReference}
    {found : Match}
    (searched :
      searchBanks bankNumber program best? entries = some found) :
    best? = some found ∨
      ∃ entry ∈ entries,
        candidate? bankNumber program entry = some found := by
  induction entries generalizing best? with
  | nil =>
      exact .inl searched
  | cons entry rest inductionHypothesis =>
      cases answered : candidate? bankNumber program entry with
      | none =>
          simp only [searchBanks, answered] at searched
          rcases inductionHypothesis searched with early | late
          · exact .inl early
          · obtain ⟨other, member, otherAnswer⟩ := late
            exact .inr ⟨other, by simp [member], otherAnswer⟩
      | some candidate =>
          have better
              {kept : Match}
              (chosen :
                (if best?.all (candidate.quality.exceeds ·.quality) then
                    some candidate
                  else
                    best?) = some kept) :
              best? = some kept ∨
                candidate? bankNumber program entry = some kept := by
            split at chosen
            · exact .inr (answered.trans chosen)
            · exact .inl chosen
          simp only [searchBanks, answered] at searched
          split at searched
          · rcases better searched with early | now
            · exact .inl early
            · exact .inr ⟨entry, by simp, now⟩
          · rcases inductionHypothesis searched with early | late
            · rcases better early with before | now
              · exact .inl before
              · exact .inr ⟨entry, by simp, now⟩
            · obtain ⟨other, member, otherAnswer⟩ := late
              exact .inr ⟨other, by simp [member], otherAnswer⟩

/-- The best match is the answer of a loaded bank. -/
theorem BankTable.bestMatch?_eq_some
    {bankNumber program : Nat}
    {table : BankTable}
    {found : Match}
    (searched : table.bestMatch? bankNumber program = some found) :
    ∃ entry ∈ table.entries,
      candidate? bankNumber program entry = some found := by
  rcases searchBanks_eq_some searched with none | answered
  · cases none
  · obtain ⟨entry, member, answer⟩ := answered
    exact ⟨entry, List.mem_reverse.mp member, answer⟩

end Polyphony.Engine
