import Polyphony.Proofs.ChannelCourse
import Polyphony.Proofs.Resolution

/-!
# The newest of the best matches

A search of the loaded banks goes from the newest to the oldest and ends early
at an exact match.  It finds what a comparison of all their answers would find:
no bank answers better, and no newer bank answers as well.  This is what a
channel plays after a program change that its selected bank cannot serve, and
after its bank was unloaded with the wish to have it replaced.
-/

namespace Polyphony.Engine

open Instrument (BankId Match MatchQuality matchIn?)
open Number (Transcendental)
open SoundFont (BankLoader)

/-! ## Comparing all answers -/

/-- The better of the best match so far and another one; the former of equals. -/
def keepBetter
    (best? : Option Match)
    (candidate : Match) :
    Option Match :=
  if best?.all (candidate.quality.exceeds ·.quality) then
    some candidate
  else
    best?

/-- The best answer of some banks, all of which are asked; the first of equals. -/
def surveyBanks
    (bankNumber program : Nat)
    (entries : List BankReference) :
    Option Match :=
  (entries.filterMap (candidate? bankNumber program)).foldl keepBetter none

/-- Nothing is kept in the place of an exact match. -/
theorem foldl_keepBetter_exact
    {best : Match}
    (exact : best.quality = .exact)
    (candidates : List Match) :
    candidates.foldl keepBetter (some best) = some best := by
  induction candidates with
  | nil => rfl
  | cons candidate rest inductionHypothesis =>
      have kept : keepBetter (some best) candidate = some best := by
        have notBetter := candidate.quality.rank_le_exact
        simp [keepBetter, MatchQuality.exceeds, exact,
          Nat.not_lt.mpr notBetter]
      rw [List.foldl_cons, kept, inductionHypothesis]

/-- What is kept of an exact match and another one is exact. -/
theorem exists_exact_keepBetter
    {candidate : Match}
    (exact : candidate.quality = .exact)
    (best? : Option Match) :
    ∃ better,
      keepBetter best? candidate = some better ∧ better.quality = .exact := by
  obtain ⟨better, kept, overCandidate, -⟩ := exists_better best? candidate
  refine ⟨better, kept, MatchQuality.eq_of_rank_eq ?_⟩
  rw [exact] at overCandidate
  exact Nat.le_antisymm better.quality.rank_le_exact overCandidate

/-- To end a search at an exact match is to have asked all banks. -/
theorem searchBanks_eq_foldl
    (bankNumber program : Nat)
    (best? : Option Match)
    (entries : List BankReference) :
    searchBanks bankNumber program best? entries =
      (entries.filterMap (candidate? bankNumber program)).foldl keepBetter
        best? := by
  induction entries generalizing best? with
  | nil => rfl
  | cons entry rest inductionHypothesis =>
      cases answered : candidate? bankNumber program entry with
      | none =>
          rw [List.filterMap_cons_none answered, ← inductionHypothesis]
          simp only [searchBanks, answered]
      | some candidate =>
          have step :
              searchBanks bankNumber program best? (entry :: rest) =
                if candidate.quality = .exact then
                  keepBetter best? candidate
                else
                  searchBanks bankNumber program (keepBetter best? candidate)
                    rest := by
            simp only [searchBanks, answered, keepBetter]
          rw [List.filterMap_cons_some answered, List.foldl_cons, step]
          split
          · rename_i exact
            obtain ⟨better, kept, betterExact⟩ :=
              exists_exact_keepBetter exact best?
            rw [kept, foldl_keepBetter_exact betterExact]
          · exact inductionHypothesis (keepBetter best? candidate)

/-- A match is kept if it is better than the best before, which else stays. -/
theorem keepBetter_cases
    (best? : Option Match)
    (candidate : Match) :
    (keepBetter best? candidate = some candidate ∧
        ∀ best,
          best? = some best → best.quality.rank < candidate.quality.rank) ∨
      ∃ best,
        best? = some best ∧
          keepBetter best? candidate = some best ∧
          candidate.quality.rank ≤ best.quality.rank := by
  cases best? with
  | none => exact .inl ⟨rfl, by simp⟩
  | some best =>
      by_cases better : best.quality.rank < candidate.quality.rank
      · exact .inl
          ⟨by simp [keepBetter, MatchQuality.exceeds, better],
            by simpa using better⟩
      · exact .inr
          ⟨best, rfl,
            by simp [keepBetter, MatchQuality.exceeds, better],
            Nat.not_lt.mp better⟩

/--
What is kept of some matches is the one before them, if none of them is better,
or else the first of them that is better than it and than all before, and not
worse than any after.
-/
theorem foldl_keepBetter_eq_some
    {candidates : List Match}
    {best? : Option Match}
    {found : Match}
    (kept : candidates.foldl keepBetter best? = some found) :
    (best? = some found ∧
        ∀ other ∈ candidates, other.quality.rank ≤ found.quality.rank) ∨
      ∃ before after,
        candidates = before ++ found :: after ∧
          (∀ other ∈ before, other.quality.rank < found.quality.rank) ∧
          (∀ other ∈ after, other.quality.rank ≤ found.quality.rank) ∧
          ∀ best,
            best? = some best → best.quality.rank < found.quality.rank := by
  induction candidates generalizing best? with
  | nil => exact .inl ⟨kept, by simp⟩
  | cons candidate rest inductionHypothesis =>
      have choice := keepBetter_cases best? candidate
      rcases inductionHypothesis kept with
        ⟨isFound, notWorse⟩ | ⟨before, after, shape, worse, notWorse, least⟩
      · rcases choice with
          ⟨chosen, overBest⟩ | ⟨best, isBest, chosen, notBetter⟩
        · cases chosen.symm.trans isFound
          exact .inr ⟨[], rest, rfl, by simp, notWorse, overBest⟩
        · cases chosen.symm.trans isFound
          exact .inl ⟨isBest, by simpa using ⟨notBetter, notWorse⟩⟩
      · refine .inr ⟨candidate :: before, after, by simp [shape], ?_, notWorse,
          ?_⟩
        · rcases choice with
            ⟨chosen, -⟩ | ⟨best, -, chosen, notBetter⟩
          · simpa using ⟨least candidate chosen, worse⟩
          · simpa using
              ⟨Nat.lt_of_le_of_lt notBetter (least best chosen), worse⟩
        · rintro other rfl
          rcases choice with
            ⟨chosen, overBest⟩ | ⟨best, isBest, chosen, -⟩
          · exact Nat.lt_trans (overBest other rfl) (least candidate chosen)
          · cases isBest
            exact least other chosen

/-! ## The newest of the best -/

namespace BankTable

/--
A match of a loaded bank that no loaded bank betters and that no bank which came
later equals.
-/
def NewestBest
    (bankNumber program : Nat)
    (table : BankTable)
    (found : Match) : Prop :=
  ∃ place entry,
    table.entries[place]? = some entry ∧
      found.bankId = entry.id ∧
      matchIn? bankNumber program entry.bank =
        some (found.preset, found.quality) ∧
      ∀ (otherPlace : Nat) (other : BankReference) index quality,
        table.entries[otherPlace]? = some other →
        matchIn? bankNumber program other.bank = some (index, quality) →
        ¬ quality.exceeds found.quality ∧
          (place < otherPlace → quality ≠ found.quality)

/-- There is only one newest best match. -/
theorem NewestBest.unique
    {bankNumber program : Nat}
    {table : BankTable}
    {first second : Match}
    (firstBest : table.NewestBest bankNumber program first)
    (secondBest : table.NewestBest bankNumber program second) :
    first = second := by
  obtain ⟨firstPlace, firstEntry, firstPresent, firstId, firstMatched,
    firstOver⟩ := firstBest
  obtain ⟨secondPlace, secondEntry, secondPresent, secondId, secondMatched,
    secondOver⟩ := secondBest
  have secondBelow := firstOver _ _ _ _ secondPresent secondMatched
  have firstBelow := secondOver _ _ _ _ firstPresent firstMatched
  have sameQuality : first.quality = second.quality := by
    apply MatchQuality.eq_of_rank_eq
    have above := secondBelow.1
    have below := firstBelow.1
    simp only [MatchQuality.exceeds, decide_eq_true_eq, Nat.not_lt]
      at above below
    exact Nat.le_antisymm below above
  have samePlace : firstPlace = secondPlace := by
    rcases Nat.lt_trichotomy firstPlace secondPlace with
      earlier | same | later
    · exact absurd sameQuality.symm (secondBelow.2 earlier)
    · exact same
    · exact absurd sameQuality (firstBelow.2 later)
  subst secondPlace
  cases firstPresent.symm.trans secondPresent
  have samePreset : first.preset = second.preset :=
    congrArg Prod.fst (Option.some.inj (firstMatched.symm.trans secondMatched))
  cases first
  cases second
  simp_all

/-- Nothing is found exactly if no bank has an answer. -/
theorem bestMatch?_eq_none_iff
    {bankNumber program : Nat}
    {table : BankTable} :
    table.bestMatch? bankNumber program = none ↔
      ∀ entry ∈ table.entries, matchIn? bankNumber program entry.bank = none := by
  constructor
  · intro nothing entry member
    exact candidate?_eq_none_iff.mp
      ((searchBanks_eq_none nothing).2 entry (List.mem_reverse.mpr member))
  · intro noneAnswers
    cases searched : table.bestMatch? bankNumber program with
    | none => rfl
    | some found =>
        obtain ⟨entry, member, answered⟩ := bestMatch?_eq_some searched
        have none := candidate?_eq_none_iff.mpr (noneAnswers entry member)
        rw [none] at answered
        cases answered

/--
What a search finds is the answer of a bank.  Those that came later have worse
answers, and those before it have none that are better.
-/
theorem exists_split_of_bestMatch?
    {bankNumber program : Nat}
    {table : BankTable}
    {found : Match}
    (searched : table.bestMatch? bankNumber program = some found) :
    ∃ older entry newer,
      table.entries = older ++ entry :: newer ∧
        candidate? bankNumber program entry = some found ∧
        (∀ other ∈ older,
          ∀ candidate,
            candidate? bankNumber program other = some candidate →
            candidate.quality.rank ≤ found.quality.rank) ∧
        ∀ other ∈ newer,
          ∀ candidate,
            candidate? bankNumber program other = some candidate →
            candidate.quality.rank < found.quality.rank := by
  rw [bestMatch?, searchBanks_eq_foldl] at searched
  rcases foldl_keepBetter_eq_some searched with
    ⟨none, -⟩ | ⟨before, after, split, worse, notWorse, -⟩
  · cases none
  obtain ⟨newer, rest, banks, beforeAnswers, restAnswers⟩ :=
    List.filterMap_eq_append_iff.mp split
  obtain ⟨silent, entry, older, restShape, noAnswers, answered,
    afterAnswers⟩ := List.filterMap_eq_cons_iff.mp restAnswers
  -- The oldest bank stands first in the table, and last in the search.
  refine ⟨older.reverse, entry, (newer ++ silent).reverse, ?_, answered, ?_, ?_⟩
  · rw [← List.reverse_reverse table.entries]
    change table.newestFirst.reverse = _
    rw [banks, restShape]
    simp
  · intro other member candidate answer
    apply notWorse
    rw [← afterAnswers]
    exact List.mem_filterMap.mpr
      ⟨other, List.mem_reverse.mp member, answer⟩
  · intro other member candidate answer
    rcases List.mem_append.mp (List.mem_reverse.mp member) with
      asked | unanswering
    · apply worse
      rw [← beforeAnswers]
      exact List.mem_filterMap.mpr ⟨other, asked, answer⟩
    · rw [noAnswers other unanswering] at answer
      cases answer

/-- What a search finds is the newest of the best matches. -/
theorem newestBest_of_bestMatch?
    {bankNumber program : Nat}
    {table : BankTable}
    {found : Match}
    (searched : table.bestMatch? bankNumber program = some found) :
    table.NewestBest bankNumber program found := by
  obtain ⟨older, entry, newer, entries, answered, notWorse, worse⟩ :=
    exists_split_of_bestMatch? searched
  obtain ⟨sameId, matched⟩ := candidate?_eq_some_iff.mp answered
  refine ⟨older.length, entry, by simp [entries], sameId, matched, ?_⟩
  intro place other index quality present otherMatched
  have answer :
      candidate? bankNumber program other =
        some ⟨other.id, index, quality⟩ :=
    candidate?_eq_some_iff.mpr ⟨rfl, otherMatched⟩
  simp only [MatchQuality.exceeds, decide_eq_true_eq, Nat.not_lt]
  rcases Nat.lt_trichotomy place older.length with before | same | after
  · rw [entries, List.getElem?_append_left before] at present
    exact ⟨notWorse other (List.mem_of_getElem? present) _ answer,
      fun later => absurd later (Nat.lt_asymm before)⟩
  · subst place
    simp only [entries, Nat.le_refl, List.getElem?_append_right, Nat.sub_self,
      List.getElem?_cons_zero, Option.some.injEq] at present
    subst other
    cases matched.symm.trans otherMatched
    exact ⟨Nat.le_refl _, fun later => absurd later (Nat.lt_irrefl _)⟩
  · obtain ⟨distance, isLater⟩ := Nat.exists_eq_add_of_lt after
    rw [entries, isLater, List.getElem?_append_right (by omega),
      show older.length + distance + 1 - older.length = distance + 1 by omega,
      List.getElem?_cons_succ] at present
    have below := worse other (List.mem_of_getElem? present) _ answer
    exact ⟨Nat.le_of_lt below, fun _ same => by simp [same] at below⟩

/-- A search finds a match exactly if it is the newest of the best. -/
theorem bestMatch?_eq_some_iff
    {bankNumber program : Nat}
    {table : BankTable}
    {found : Match} :
    table.bestMatch? bankNumber program = some found ↔
      table.NewestBest bankNumber program found := by
  refine ⟨newestBest_of_bestMatch?, fun isBest => ?_⟩
  cases searched : table.bestMatch? bankNumber program with
  | none =>
      obtain ⟨place, entry, present, -, matched, -⟩ := isBest
      have none :=
        bestMatch?_eq_none_iff.mp searched entry (List.mem_of_getElem? present)
      rw [none] at matched
      cases matched
  | some other =>
      rw [(newestBest_of_bestMatch? searched).unique isBest]

/-- What a channel is bound to that is told to play the best there is. -/
inductive Recommends
    (bankNumber program : Nat)
    (table : BankTable) :
    Binding → Prop where
  | found {best : Match} :
      table.NewestBest bankNumber program best →
      Recommends bankNumber program table (.resolved best)
  | nothing :
      (∀ entry ∈ table.entries,
        matchIn? bankNumber program entry.bank = none) →
      Recommends bankNumber program table .noInstrument

/-- A channel that is bound by a search is bound as the table recommends. -/
theorem exists_recommended
    (bankNumber program : Nat)
    (table : BankTable)
    (channel : Channel) :
    ∃ binding,
      table.Recommends bankNumber program binding ∧
        channel.resolveTo (table.bestMatch? bankNumber program) =
          { channel with binding := binding } := by
  cases searched : table.bestMatch? bankNumber program with
  | none =>
      exact ⟨_, .nothing (bestMatch?_eq_none_iff.mp searched), rfl⟩
  | some best =>
      exact ⟨_, .found (newestBest_of_bestMatch? searched), rfl⟩

end BankTable

/-! ## Channels that are bound by a search -/

namespace Channel

/-- The bank that was selected for a channel has a preset for a program. -/
def ServedBySelection
    (program : Nat)
    (banks : BankTable)
    (channel : Channel)
    (id : BankId)
    (position : Nat) : Prop :=
  ∃ preset, channel.binding = .selected id preset ∧
    ∃ entry ∈ banks.entries,
      entry.id = id ∧
        entry.bank.presetIndex? channel.bankNumber program = some position

/--
What a program change makes of a channel: it stays with the bank that was
selected for it if that has a preset of the address, and else plays what the
table recommends.
-/
inductive FollowsProgram
    (program : Nat)
    (banks : BankTable)
    (channel : Channel) :
    Channel → Prop where
  | stayed {id : BankId} {position : Nat} :
      channel.ServedBySelection program banks id position →
      FollowsProgram program banks channel
        { channel with program := program, binding := .selected id position }
  | searched {binding : Binding} :
      (∀ id position,
        ¬ channel.ServedBySelection program banks id position) →
      banks.Recommends channel.bankNumber program binding →
      FollowsProgram program banks channel
        { channel with program := program, binding := binding }

/--
What the loss of a bank makes of a channel: if it played from the bank it plays
what the remaining table recommends, and else what it did.
-/
inductive FollowsUnload
    (id : BankId)
    (remaining : BankTable)
    (channel : Channel) :
    Channel → Prop where
  | untouched :
      channel.binding.bankId? ≠ some id →
      FollowsUnload id remaining channel channel
  | rebound {binding : Binding} :
      channel.binding.bankId? = some id →
      remaining.Recommends channel.bankNumber channel.program binding →
      FollowsUnload id remaining channel { channel with binding := binding }

theorem selectedIn?_eq_some_iff
    {program position : Nat}
    {banks : BankTable}
    (wellFormed : banks.WellFormed)
    {channel : Channel}
    {id : BankId} :
    channel.selectedIn? program banks = some (id, position) ↔
      channel.ServedBySelection program banks id position := by
  unfold selectedIn? ServedBySelection
  cases channel.binding with
  | resolved found => simp
  | noInstrument => simp
  | selected selected preset =>
      simp only [Option.bind_eq_some_iff, Option.map_eq_some_iff,
        Prod.mk.injEq, Binding.selected.injEq]
      constructor
      · rintro ⟨entry, found, own, addressed, rfl, rfl⟩
        obtain ⟨member, sameId⟩ := BankTable.mem_of_get? found
        exact ⟨preset, ⟨rfl, rfl⟩, entry, member, sameId, addressed⟩
      · rintro ⟨_, ⟨rfl, rfl⟩, entry, member, rfl, addressed⟩
        exact ⟨entry, wellFormed.get?_of_mem member, position, addressed, rfl,
          rfl⟩

/-- A channel that is given a program becomes what the rule says. -/
theorem followsProgram_reprogrammed
    {banks : BankTable}
    (wellFormed : banks.WellFormed)
    (program : Nat)
    (channel : Channel) :
    channel.FollowsProgram program banks (channel.reprogrammed program banks) := by
  unfold reprogrammed
  cases selected : channel.selectedIn? program banks with
  | some place =>
      exact .stayed ((selectedIn?_eq_some_iff wellFormed).mp selected)
  | none =>
      obtain ⟨binding, recommended, bound⟩ :=
        banks.exists_recommended channel.bankNumber program
          (channel.setProgram program)
      dsimp only
      rw [bound]
      refine .searched (fun id position served => ?_) recommended
      have found := (selectedIn?_eq_some_iff wellFormed).mpr served
      rw [selected] at found
      cases found

/-- A channel whose bank goes becomes what the rule says. -/
theorem followsUnload_bereft
    (id : BankId)
    (remaining : BankTable)
    (channel : Channel) :
    channel.FollowsUnload id remaining (channel.bereft id true remaining) := by
  unfold bereft
  split
  · rename_i plays
    obtain ⟨binding, recommended, bound⟩ :=
      remaining.exists_recommended channel.bankNumber channel.program channel
    rw [if_pos rfl, bound]
    exact .rebound (of_decide_eq_true plays) recommended
  · rename_i elsewhere
    exact .untouched fun plays => elsewhere (decide_eq_true plays)

end Channel

namespace Synth

variable [Transcendental]

/-- A program change makes of the channels what it makes of its own one. -/
theorem act_programChange
    {command : Command}
    {number program : Nat}
    (asks :
      command = .programChange number program ∨
        command = .midi (.programChange number program))
    (loader : BankLoader)
    (synth : Synth) :
    synth.act (.control loader command) =
      if number < synth.configuration.channels then
        (Mutation.apply (.changeProgram number (program % 128))
          synth).reclaimed
      else
        synth := by
  rw [← synth.concluded_ifChannel, act, perform_synth]
  rcases asks with rfl | rfl <;> rfl

/-- Each of the channels after a program change, as one of those before. -/
theorem programChange_channels
    {configuration : SynthConfiguration}
    {synth : Synth}
    (configured : synth.Configured configuration)
    {command : Command}
    {number program : Nat}
    (asks :
      command = .programChange number program ∨
        command = .midi (.programChange number program))
    (loader : BankLoader)
    (other : Nat) :
    (synth.act (.control loader command)).channels[other]? =
      synth.channels[other]?.map
        (if number = other then
          Channel.reprogrammed (program % 128) synth.banks
        else
          id) := by
  rw [act_programChange asks]
  split
  · exact Mutation.channels_apply (.changeProgram number (program % 128)) synth
      other
  · rename_i missing
    split
    · rename_i same
      rw [configured.sameConfiguration, ← configured.channelCount, same]
        at missing
      rw [List.getElem?_eq_none (Nat.not_lt.mp missing)]
      rfl
    · rw [Option.map_id_apply]

theorem programChange_banks
    {command : Command}
    {number program : Nat}
    (asks :
      command = .programChange number program ∨
        command = .midi (.programChange number program))
    (loader : BankLoader)
    (synth : Synth) :
    (synth.act (.control loader command)).banks = synth.banks := by
  rw [act_programChange asks]
  split
  · exact Mutation.banks_apply (.changeProgram number (program % 128)) synth
  · rfl

/-- The entries of the other banks are left after a bank is taken out. -/
theorem unload_entries
    {synth : Synth}
    (wellFormed : synth.banks.WellFormed)
    (loader : BankLoader)
    (id : BankId)
    (updatePresets : Bool) :
    (synth.act (.control loader (.unload id updatePresets))).banks.entries =
      synth.banks.entries.filter (·.id ≠ id) := by
  rw [act, perform_synth]
  change
    (Mutation.apply (.withdraw id updatePresets) synth).banks.entries = _
  rw [Mutation.banks_apply, Mutation.tableAfter]
  cases removed : synth.banks.remove? id with
  | none =>
      have absent : synth.banks.get? id = none := by
        simpa [BankTable.remove?] using removed
      have others : ∀ entry ∈ synth.banks.entries, entry.id ≠ id :=
        fun entry member same =>
          BankTable.get?_eq_none_iff.mp absent ⟨entry, member, same⟩
      exact (List.filter_eq_self.mpr (by simpa using others)).symm
  | some result =>
      obtain ⟨-, after⟩ := BankTable.remove?_eq_some removed
      dsimp only
      rw [after]
      exact wellFormed.eraseP_eq_filter id

/-- Each of the channels after an unloading that is made up for. -/
theorem unload_channels
    {synth : Synth}
    (bound : synth.Bound)
    (loader : BankLoader)
    (id : BankId)
    {number : Nat}
    {channel : Channel}
    (present : synth.channels[number]? = some channel) :
    let after := synth.act (.control loader (.unload id true))
    ∃ changed,
      after.channels[number]? = some changed ∧
        channel.FollowsUnload id after.banks changed := by
  intro after
  have afterShape :
      after = (Mutation.apply (.withdraw id true) synth).reclaimed :=
    perform_synth loader (.unload id true) synth
  have channels :
      after.channels[number]? =
        some
          (Mutation.channelAfter synth.banks (.withdraw id true) number
            channel) := by
    rw [afterShape]
    exact (Mutation.channels_apply (.withdraw id true) synth number).trans
      (by rw [present, Option.map_some])
  have banks :
      after.banks = Mutation.tableAfter synth.banks (.withdraw id true) := by
    rw [afterShape]
    exact Mutation.banks_apply (.withdraw id true) synth
  refine ⟨_, channels, ?_⟩
  rw [banks]
  simp only [Mutation.channelAfter, Mutation.tableAfter]
  cases removed : synth.banks.remove? id with
  | none =>
      -- No channel plays from a bank that is not loaded.
      refine .untouched fun plays => ?_
      obtain ⟨⟨own, position⟩, target, rfl⟩ := Option.map_eq_some_iff.mp plays
      obtain ⟨entry, found, -⟩ :=
        bound.resolves channel (List.mem_of_getElem? present) own position
          target
      simp [BankTable.remove?, found] at removed
  | some result => exact channel.followsUnload_bereft id result.2

/--
A search of any table finds nothing exactly if no bank of it has an answer, and
else the answer of a bank that no bank betters and no newer bank equals; and
this is what comparing the answers of all banks would find.  At every point of a
session, a program change leaves its channel with its selected bank if that has
the preset, and else binds it to what such a search of the loaded banks finds;
the unloading of a bank that is to be replaced binds the channels that played
from it to what a search of the remaining banks finds, and leaves all others as
they are.
-/
theorem run_searches_find_newest_best
    (configuration : SynthConfiguration)
    (actions : List Action) :
    (∀ (table : BankTable) (bankNumber program : Nat),
      (table.bestMatch? bankNumber program = none ↔
          ∀ entry ∈ table.entries,
            matchIn? bankNumber program entry.bank = none) ∧
        (∀ found,
          table.bestMatch? bankNumber program = some found ↔
            table.NewestBest bankNumber program found) ∧
        table.bestMatch? bankNumber program =
          surveyBanks bankNumber program table.newestFirst) ∧
      let synth := (Synth.new configuration).run actions
      (∀ loader command number program,
        command = .programChange number program ∨
          command = .midi (.programChange number program) →
        let after := synth.act (.control loader command)
        after.banks = synth.banks ∧
          (∀ other,
            other ≠ number → after.channels[other]? = synth.channels[other]?) ∧
          ∀ channel,
            synth.channels[number]? = some channel →
            ∃ changed,
              after.channels[number]? = some changed ∧
                channel.FollowsProgram (program % 128) synth.banks changed) ∧
        ∀ loader id,
          let after := synth.act (.control loader (.unload id true))
          after.banks.entries = synth.banks.entries.filter (·.id ≠ id) ∧
            ∀ (number : Nat) channel,
              synth.channels[number]? = some channel →
              ∃ changed,
                after.channels[number]? = some changed ∧
                  channel.FollowsUnload id after.banks changed := by
  refine ⟨fun table bankNumber program =>
    ⟨table.bestMatch?_eq_none_iff, fun found => table.bestMatch?_eq_some_iff,
      searchBanks_eq_foldl bankNumber program none table.newestFirst⟩, ?_⟩
  intro synth
  have bound : synth.Bound :=
    Bound.invariant.run actions (Bound.new configuration)
  have configured : synth.Configured configuration :=
    (Configured.invariant configuration).run actions
      (Configured.new configuration)
  refine ⟨?_, ?_⟩
  · intro loader command number program asks after
    refine ⟨programChange_banks asks loader synth, ?_, ?_⟩
    · intro other different
      rw [programChange_channels configured asks, if_neg (Ne.symm different),
        Option.map_id_apply]
    · intro channel present
      refine ⟨_, ?_, channel.followsProgram_reprogrammed bound.table _⟩
      rw [programChange_channels configured asks, if_pos rfl, present]
      rfl
  · intro loader id after
    exact ⟨unload_entries bound.table loader id true,
      fun number channel present => unload_channels bound loader id present⟩

end Synth

end Polyphony.Engine
