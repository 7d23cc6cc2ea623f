import Polyphony.Proofs.Bindings
import Polyphony.Proofs.Blocks
import Polyphony.Proofs.QueueRoom

/-!
# Channels resolve to the best match

A channel that was not told which preset to play takes over what newly loaded
banks offer, searches the banks that are left when its own goes, and searches
all of them for a new program.  These are different rules, but as long as every
bank that comes or goes is reported to the channels they agree: a channel plays
the best match that any loaded bank has for it.
-/

namespace Polyphony.Instrument

/-- No quality is better than an exact match. -/
theorem MatchQuality.rank_le_exact (quality : MatchQuality) :
    quality.rank ≤ MatchQuality.exact.rank := by
  cases quality <;> decide

/-- Qualities of one rank are the same. -/
theorem MatchQuality.eq_of_rank_eq
    {first second : MatchQuality}
    (same : first.rank = second.rank) :
    first = second := by
  revert same
  cases first <;> cases second <;> decide

/-- A bank that has an answer has one of some quality. -/
theorem rank_pos_of_matchIn?
    {bankNumber program index : Nat}
    {quality : MatchQuality}
    {bank : Bank}
    (found : matchIn? bankNumber program bank = some (index, quality)) :
    1 ≤ quality.rank := by
  unfold matchIn? at found
  split at found
  · cases found
    decide
  · split at found
    · cases found
      decide
    · simp only [Option.map_eq_some_iff, Prod.mk.injEq] at found
      obtain ⟨first, -, -, same⟩ := found
      rw [← same]
      decide

end Polyphony.Instrument

namespace Polyphony.Engine

open Instrument (Bank BankId Match MatchQuality matchIn?
  rank_pos_of_matchIn?)
open Number (Transcendental)
open SoundFont (BankLoader)

/-! ## What a search finds is the best -/

theorem candidate?_eq_some_iff
    {bankNumber program : Nat}
    {entry : BankReference}
    {found : Match} :
    candidate? bankNumber program entry = some found ↔
      found.bankId = entry.id ∧
        matchIn? bankNumber program entry.bank =
          some (found.preset, found.quality) := by
  simp only [candidate?, Option.map_eq_some_iff]
  constructor
  · rintro ⟨⟨index, quality⟩, matched, shape⟩
    subst found
    exact ⟨rfl, matched⟩
  · rintro ⟨sameId, matched⟩
    exact ⟨_, matched, by rw [← sameId]⟩

theorem candidate?_eq_none_iff
    {bankNumber program : Nat}
    {entry : BankReference} :
    candidate? bankNumber program entry = none ↔
      matchIn? bankNumber program entry.bank = none := by
  simp [candidate?]

/-- A match is at least as good as the answer of each of some banks. -/
def Surpasses
    (bankNumber program : Nat)
    (entries : List BankReference)
    (found : Match) : Prop :=
  ∀ entry ∈ entries,
    ∀ candidate,
      candidate? bankNumber program entry = some candidate →
      candidate.quality.rank ≤ found.quality.rank

/-- The better of a new match and the best before is not worse than either. -/
theorem exists_better
    (best? : Option Match)
    (candidate : Match) :
    ∃ better,
      (if best?.all (candidate.quality.exceeds ·.quality) then
          some candidate
        else
          best?) = some better ∧
        candidate.quality.rank ≤ better.quality.rank ∧
        ∀ best,
          best? = some best →
          best.quality.rank ≤ better.quality.rank := by
  cases best? with
  | none =>
      exact ⟨candidate, by simp, Nat.le_refl _, by simp⟩
  | some best =>
      by_cases exceeding : best.quality.rank < candidate.quality.rank
      · refine ⟨candidate, ?_, Nat.le_refl _, ?_⟩
        · simp [MatchQuality.exceeds, exceeding]
        · simp [Nat.le_of_lt exceeding]
      · refine ⟨best, ?_, Nat.not_lt.mp exceeding, by simp⟩
        simp [MatchQuality.exceeds, exceeding]

/-- A search finds nothing only where there is nothing to be found. -/
theorem searchBanks_eq_none
    {bankNumber program : Nat}
    {best? : Option Match}
    {entries : List BankReference}
    (searched : searchBanks bankNumber program best? entries = none) :
    best? = none ∧
      ∀ entry ∈ entries, candidate? bankNumber program entry = none := by
  induction entries generalizing best? with
  | nil =>
      exact ⟨searched, by simp⟩
  | cons entry rest inductionHypothesis =>
      cases answered : candidate? bankNumber program entry with
      | none =>
          simp only [searchBanks, answered] at searched
          obtain ⟨noneBefore, others⟩ := inductionHypothesis searched
          exact ⟨noneBefore, by simpa [answered] using others⟩
      | some candidate =>
          obtain ⟨better, isBetter, -, -⟩ := exists_better best? candidate
          simp only [searchBanks, answered, isBetter] at searched
          split at searched
          · cases searched
          · cases (inductionHypothesis searched).1

/-- No bank that is searched answers better than what is found. -/
theorem searchBanks_surpasses
    {bankNumber program : Nat}
    {best? : Option Match}
    {entries : List BankReference}
    {found : Match}
    (searched :
      searchBanks bankNumber program best? entries = some found) :
    (∀ best,
        best? = some best →
        best.quality.rank ≤ found.quality.rank) ∧
      Surpasses bankNumber program entries found := by
  induction entries generalizing best? with
  | nil =>
      refine ⟨?_, by simp [Surpasses]⟩
      intro best isBest
      rw [searchBanks, isBest] at searched
      cases searched
      exact Nat.le_refl _
  | cons entry rest inductionHypothesis =>
      cases answered : candidate? bankNumber program entry with
      | none =>
          simp only [searchBanks, answered] at searched
          obtain ⟨before, others⟩ := inductionHypothesis searched
          refine ⟨before, ?_⟩
          intro other member candidate answer
          rcases List.mem_cons.mp member with isEntry | later
          · subst other
            rw [answered] at answer
            cases answer
          · exact others other later candidate answer
      | some candidate =>
          obtain ⟨better, isBetter, overCandidate, overBest⟩ :=
            exists_better best? candidate
          simp only [searchBanks, answered, isBetter] at searched
          split at searched
          · -- An exact match ends the search, and nothing is better than one.
            rename_i exact
            cases searched
            refine ⟨overBest, ?_⟩
            intro other member answer isAnswer
            rw [exact] at overCandidate
            exact Nat.le_trans answer.quality.rank_le_exact overCandidate
          · obtain ⟨overBetter, others⟩ := inductionHypothesis searched
            have overFound := overBetter better rfl
            refine ⟨fun best isBest =>
              Nat.le_trans (overBest best isBest) overFound, ?_⟩
            intro other member answer isAnswer
            rcases List.mem_cons.mp member with isEntry | later
            · subst other
              rw [answered] at isAnswer
              cases isAnswer
              exact Nat.le_trans overCandidate overFound
            · exact others other later answer isAnswer

/-! ## What a channel plays -/

/--
How a binding answers a bank number and a program: with the preset of just this
address in the bank that was asked for, with the best match of the loaded banks,
or with nothing, where no loaded bank has anything to offer.
-/
inductive Answers
    (banks : BankTable)
    (bankNumber program : Nat) :
    Binding → Prop where
  | selected {id : BankId} {preset : Nat} {entry : BankReference} :
      banks.get? id = some entry →
      entry.bank.presetIndex? bankNumber program = some preset →
      Answers banks bankNumber program (.selected id preset)
  | resolved {found : Match} {entry : BankReference} :
      banks.get? found.bankId = some entry →
      candidate? bankNumber program entry = some found →
      Surpasses bankNumber program banks.entries found →
      Answers banks bankNumber program (.resolved found)
  | noInstrument :
      (∀ entry ∈ banks.entries,
        candidate? bankNumber program entry = none) →
      Answers banks bankNumber program .noInstrument

/-- The binding of the channel answers the bank number and the program it has. -/
def Channel.Answered
    (banks : BankTable)
    (channel : Channel) : Prop :=
  Answers banks channel.bankNumber channel.program channel.binding

/-- What a search of all banks finds is an answer. -/
theorem BankTable.WellFormed.answered_resolveTo
    {banks : BankTable}
    (wellFormed : banks.WellFormed)
    (channel : Channel) :
    (channel.resolveTo
      (banks.bestMatch? channel.bankNumber channel.program)).Answered
        banks := by
  unfold Channel.Answered
  simp only [Channel.resolveTo]
  cases searched :
      banks.bestMatch? channel.bankNumber channel.program with
  | none =>
      obtain ⟨-, noneAnswers⟩ := searchBanks_eq_none searched
      apply Answers.noInstrument
      intro entry member
      exact noneAnswers entry (List.mem_reverse.mpr member)
  | some found =>
      obtain ⟨entry, member, answered⟩ :=
        BankTable.bestMatch?_eq_some searched
      have sameId := (candidate?_eq_some answered).1
      obtain ⟨-, surpasses⟩ := searchBanks_surpasses searched
      have loaded := wellFormed.get?_of_mem member
      rw [← sameId] at loaded
      apply Answers.resolved loaded answered
      intro other otherMember
      exact surpasses other (List.mem_reverse.mpr otherMember)

/-! ## Banks come and go -/

namespace Channel

theorem accepts_iff
    (candidate : Match)
    (channel : Channel) :
    channel.accepts candidate ↔
      channel.binding.isSelected = false ∧
        candidate.quality ≠ .nothing ∧
        (candidate.quality = .exact ∨
          channel.binding.quality.rank < candidate.quality.rank) := by
  simp [accepts, MatchQuality.exceeds, and_assoc]

/-- The match of a new bank that takes over is better than all the old banks'. -/
theorem Answered.surpasses_of_accepts
    {banks : BankTable}
    {channel : Channel}
    (answered : channel.Answered banks)
    {found : Match}
    (accepted : channel.accepts found) :
    Surpasses channel.bankNumber channel.program banks.entries found := by
  obtain ⟨unselected, -, exact | better⟩ :=
    (channel.accepts_iff found).mp accepted
  · intro entry _ candidate _
    rw [exact]
    exact candidate.quality.rank_le_exact
  · unfold Answered at answered
    generalize channel.binding = binding at answered unselected better
    cases answered with
    | selected found addressed => cases unselected
    | resolved loaded answer surpasses =>
        intro entry member candidate answer
        exact Nat.le_of_lt
          (Nat.lt_of_le_of_lt (surpasses entry member candidate answer) better)
    | noInstrument noneAnswers =>
        intro entry member candidate answer
        rw [noneAnswers entry member] at answer
        cases answer

/-- A match that does not take over is not better than what is there. -/
theorem Answered.insert_of_not_accepts
    {bank : Bank}
    {banks after : BankTable}
    {id : BankId}
    {channel : Channel}
    (answered : channel.Answered banks)
    (insertion : banks.insert bank = .ok (id, after))
    (notTaken :
      ∀ candidate,
        candidate? channel.bankNumber channel.program ⟨id, bank⟩ =
          some candidate →
        ¬ channel.accepts candidate) :
    channel.Answered after := by
  have entries : after.entries = banks.entries ++ [⟨id, bank⟩] := by
    obtain ⟨isId, isAfter⟩ := BankTable.insert_eq_ok insertion
    rw [isAfter, isId]
  simp only [accepts_iff] at notTaken
  unfold Answered at answered ⊢
  generalize channel.binding = binding at answered notTaken ⊢
  cases answered with
  | selected found addressed =>
      exact .selected (BankTable.get?_of_insert insertion found) addressed
  | resolved loaded answer surpasses =>
      refine .resolved (BankTable.get?_of_insert insertion loaded) answer ?_
      intro entry member candidate isAnswer
      rw [entries] at member
      rcases List.mem_append.mp member with old | new
      · exact surpasses entry old candidate isAnswer
      · rw [List.mem_singleton.mp new] at isAnswer
        have some :=
          rank_pos_of_matchIn? (candidate?_eq_some_iff.mp isAnswer).2
        apply Nat.not_lt.mp
        intro better
        apply notTaken candidate isAnswer
        refine ⟨rfl, ?_, .inr better⟩
        intro nothing
        rw [nothing] at some
        cases some
  | noInstrument noneAnswers =>
      apply Answers.noInstrument
      intro entry member
      rw [entries] at member
      rcases List.mem_append.mp member with old | new
      · exact noneAnswers entry old
      · rw [List.mem_singleton.mp new]
        cases isAnswer :
            candidate? channel.bankNumber channel.program ⟨id, bank⟩ with
        | none => rfl
        | some candidate =>
            have some :=
              rank_pos_of_matchIn? (candidate?_eq_some_iff.mp isAnswer).2
            refine absurd ⟨rfl, ?_, .inr some⟩ (notTaken candidate isAnswer)
            intro nothing
            rw [nothing] at some
            cases some

/-- An offer leaves a channel with the best match of the banks, old and new. -/
theorem Answered.offered
    {bank : Bank}
    {banks after : BankTable}
    {id : BankId}
    {channel : Channel}
    (wellFormed : banks.WellFormed)
    (answered : channel.Answered banks)
    (insertion : banks.insert bank = .ok (id, after)) :
    (channel.offered ⟨id, bank⟩).Answered after := by
  unfold Channel.offered
  split
  · rename_i found taken
    obtain ⟨isAnswer, accepted⟩ := Option.filter_eq_some_iff.mp taken
    have sameId := (candidate?_eq_some isAnswer).1
    have surpasses := answered.surpasses_of_accepts accepted
    obtain ⟨isId, isAfter⟩ := BankTable.insert_eq_ok insertion
    rw [offer, if_pos accepted]
    apply Answers.resolved _ isAnswer
    · intro entry member candidate answer
      rw [isAfter, ← isId] at member
      rcases List.mem_append.mp member with old | new
      · exact surpasses entry old candidate answer
      · rw [List.mem_singleton.mp new, isAnswer] at answer
        cases answer
        exact Nat.le_refl _
    · rw [sameId]
      exact wellFormed.get?_inserted insertion
  · rename_i notTaken
    apply answered.insert_of_not_accepts insertion
    intro candidate isAnswer accepted
    rw [takeover?, isAnswer, Option.filter_some, if_pos accepted] at notTaken
    cases notTaken

/-- A channel of another bank goes on to play the best match of those left. -/
theorem Answered.remove?
    {banks after : BankTable}
    {id : BankId}
    {removed : BankReference}
    {channel : Channel}
    (answered : channel.Answered banks)
    (removal : banks.remove? id = some (removed, after))
    (elsewhere : ¬ channel.playsFrom id) :
    channel.Answered after := by
  have remaining : ∀ entry ∈ after.entries, entry ∈ banks.entries := by
    intro entry member
    obtain ⟨-, isAfter⟩ := BankTable.remove?_eq_some removal
    rw [isAfter] at member
    exact List.mem_of_mem_eraseP member
  simp only [playsFrom, decide_eq_true_eq] at elsewhere
  unfold Answered at answered ⊢
  generalize channel.binding = binding at answered elsewhere ⊢
  cases answered with
  | selected found addressed =>
      refine .selected ?_ addressed
      rw [BankTable.get?_of_remove? removal]
      · exact found
      · rintro rfl
        exact elsewhere rfl
  | resolved loaded answer surpasses =>
      refine .resolved ?_ answer fun entry member =>
        surpasses entry (remaining entry member)
      rw [BankTable.get?_of_remove? removal]
      · exact loaded
      · rintro rfl
        exact elsewhere rfl
  | noInstrument noneAnswers =>
      exact .noInstrument fun entry member =>
        noneAnswers entry (remaining entry member)

/-- A channel whose bank goes falls back to the best match of those left. -/
theorem Answered.rebound
    {banks after : BankTable}
    {id : BankId}
    {removed : BankReference}
    {channel : Channel}
    (wellFormed : banks.WellFormed)
    (answered : channel.Answered banks)
    (removal : banks.remove? id = some (removed, after))
    (synth : Synth)
    (left : synth.banks = after) :
    (Synth.rebound id true synth channel).Answered after := by
  unfold Synth.rebound
  split
  · have searched := (wellFormed.remove? removal).answered_resolveTo channel
    simpa only [Synth.fallback?, left, if_true] using searched
  · rename_i elsewhere
    exact answered.remove? removal elsewhere

end Channel

/-! ## Every call of an informed session -/

/-- Whether a mutation informs the channels and leaves their bank numbers. -/
def Mutation.informs : Mutation → Bool
  | .publish _ updatePresets => updatePresets
  | .withdraw _ updatePresets => updatePresets
  | .applyController _ controller _ =>
      controller % 128 ≠ Controller.bankSelect
  | _ => true

/--
Whether a command, if it loads or unloads a bank, informs the channels of that,
and is no bank select.
-/
def Command.informs : Command → Bool
  | .addBank _ updatePresets => updatePresets
  | .load _ updatePresets => updatePresets
  | .unload _ updatePresets => updatePresets
  | .controlChange _ controller _
  | .midi (.controlChange _ controller _) =>
      controller % 128 ≠ Controller.bankSelect
  | _ => true

/-- Whether a call informs the channels, and is no bank select. -/
def Action.informs : Action → Bool
  | .control _ command => command.informs
  | .render _ => true
  | .renderSamples _ => true

/-- The mutation of an informing command informs. -/
theorem Command.informs_mutation?
    {loader : BankLoader}
    {command : Command}
    {mutation : Mutation}
    {synth : Synth}
    (informs : command.informs)
    (carriedOut : command.mutation? loader synth = some mutation) :
    mutation.informs := by
  cases Command.asksFor carriedOut with
  | addBank bank updatePresets => exact informs
  | load path bank updatePresets => exact informs
  | unload id updatePresets => exact informs
  | controlChange channel controller value => exact informs
  | controlEvent channel controller value => exact informs
  | _ => rfl

namespace Synth

/-- The table is in order, and every channel is answered. -/
structure Answering (synth : Synth) : Prop where
  table : synth.banks.WellFormed
  answered :
    ∀ channel ∈ synth.channels,
      channel.Answered synth.banks

namespace Answering

theorem new (configuration : SynthConfiguration) :
    (Synth.new configuration).Answering where
  table := BankTable.WellFormed.new configuration.maxBanks
  answered := by
    intro channel member
    obtain ⟨index, -, isNew⟩ := List.mem_map.mp member
    subst channel
    exact .noInstrument (by simp [Synth.new, BankTable.new])

/-- A change of one channel keeps the channels answered if it answers that one. -/
theorem changeChannel
    {synth : Synth}
    (answering : synth.Answering)
    (number : Nat)
    {change : Channel → Channel}
    (keeps :
      ∀ {channel : Channel},
        synth.channels[number]? = some channel →
        channel.Answered synth.banks →
        (change channel).Answered synth.banks) :
    (synth.changeChannel number change).Answering where
  table := answering.table
  answered :=
    forall_changeChannel (fun channel => channel.Answered synth.banks)
      (fun _ => keeps) answering.answered

/-- An informed loading leaves all channels answered. -/
theorem publish
    [Transcendental]
    {synth : Synth}
    (answering : synth.Answering)
    (bank : Bank) :
    (Mutation.apply (.publish bank true) synth).Answering := by
  simp only [Mutation.apply, Synth.publish]
  cases inserted : synth.banks.insert bank with
  | error error =>
      exact answering
  | ok result =>
      refine ⟨answering.table.insert inserted, ?_⟩
      intro channel member
      obtain ⟨old, oldMember, isOffered⟩ := List.mem_map.mp member
      subst channel
      exact (answering.answered old oldMember).offered answering.table inserted

/-- An informed unloading leaves all channels answered. -/
theorem withdraw
    [Transcendental]
    {synth : Synth}
    (answering : synth.Answering)
    (id : BankId) :
    (Mutation.apply (.withdraw id true) synth).Answering := by
  simp only [Mutation.apply, Synth.withdraw]
  cases removed : synth.banks.remove? id with
  | none =>
      exact answering
  | some result =>
      refine ⟨answering.table.remove? removed, ?_⟩
      intro channel member
      obtain ⟨old, oldMember, isRebound⟩ := List.mem_map.mp member
      subst channel
      exact (answering.answered old oldMember).rebound answering.table removed
        _ rfl

theorem selectProgram
    [Transcendental]
    {synth : Synth}
    (answering : synth.Answering)
    (channel : Nat)
    (id : BankId)
    (bankNumber program : Nat) :
    (Mutation.apply (.selectProgram channel id bankNumber program)
      synth).Answering := by
  rw [Mutation.apply]
  cases selected : synth.selectProgram channel id bankNumber program with
  | error error =>
      exact answering
  | ok result =>
      obtain ⟨entry, preset, found, addressed, after⟩ :=
        selectProgram_eq_ok selected
      rw [afterChange, after]
      apply answering.changeChannel
      intro _ _ _
      exact .selected found addressed

/-- A new program is looked for where the old one was selected, or everywhere. -/
theorem changeProgram
    [Transcendental]
    {synth : Synth}
    (answering : synth.Answering)
    (channel program : Nat) :
    (Mutation.apply (.changeProgram channel program) synth).Answering := by
  rw [Mutation.apply]
  rcases synth.changeProgram_eq channel program with
    ⟨-, after⟩ |
      ⟨entry, present, ⟨id, preset, selected, after⟩ | ⟨-, after⟩⟩
  · rw [after]
    exact answering
  · obtain ⟨source, found, addressed⟩ := selectedPreset?_eq_some selected
    rw [after]
    apply answering.changeChannel
    intro _ _ _
    exact .selected found addressed
  · rw [after]
    apply answering.changeChannel
    intro changed changedPresent _
    have isEntry : entry = changed :=
      Option.some.inj (present.symm.trans changedPresent)
    rw [isEntry]
    exact answering.table.answered_resolveTo (changed.setProgram program)

/-- A controller other than the bank select leaves what a channel asks for. -/
theorem applyController
    [Transcendental]
    {synth : Synth}
    (answering : synth.Answering)
    (channel : Nat)
    {controller : Nat}
    (value : Nat)
    (notBankSelect : controller % 128 ≠ Controller.bankSelect) :
    (Mutation.apply (.applyController channel controller value)
      synth).Answering := by
  rw [Mutation.apply, Synth.applyController]
  split
  · exact ⟨answering.table, answering.answered⟩
  · split
    · exact ⟨answering.table, answering.answered⟩
    · split
      · exact answering.changeChannel channel fun _ answered => answered
      · apply answering.changeChannel
        intro changed _ answered
        rw [Channel.setController, if_neg notBankSelect]
        exact answered

/-- Every mutation that informs leaves all channels answered. -/
theorem mutation
    [Transcendental]
    {synth : Synth}
    (answering : synth.Answering)
    {mutation : Mutation}
    (informs : mutation.informs) :
    (mutation.apply synth).Answering := by
  cases mutation with
  | publish bank updatePresets =>
      rw [show updatePresets = true from informs]
      exact answering.publish bank
  | withdraw id updatePresets =>
      rw [show updatePresets = true from informs]
      exact answering.withdraw id
  | selectProgram channel id bankNumber program =>
      exact answering.selectProgram channel id bankNumber program
  | changeProgram channel program =>
      exact answering.changeProgram channel program
  | startNote channel key velocity =>
      rw [Mutation.apply, startNote_eq]
      split <;> exact ⟨answering.table, answering.answered⟩
  | releaseKey channel key => exact ⟨answering.table, answering.answered⟩
  | releaseChannel channel? => exact ⟨answering.table, answering.answered⟩
  | forceReleaseChannel channel? =>
      exact ⟨answering.table, answering.answered⟩
  | applyController channel controller value =>
      exact answering.applyController channel value (of_decide_eq_true informs)
  | bendPitch channel value =>
      exact answering.changeChannel channel fun _ answered => answered

/-- Sound has nothing to do with banks and channels. -/
theorem renderBlocks
    [Transcendental]
    {synth : Synth}
    (answering : synth.Answering)
    (sizes : List Nat) :
    (synth.renderBlocks sizes).2.Answering := by
  rw [renderBlocks_eq]
  exact ⟨answering.table, answering.answered⟩

theorem act
    [Transcendental]
    {synth : Synth}
    (answering : synth.Answering)
    {action : Action}
    (informs : action.informs) :
    (synth.act action).Answering := by
  cases action with
  | control loader command =>
      rw [Synth.act, perform_synth]
      cases carriedOut : command.mutation? loader synth with
      | none =>
          exact answering
      | some mutation =>
          have after :=
            answering.mutation (Command.informs_mutation? informs carriedOut)
          exact ⟨after.table, after.answered⟩
  | render frames =>
      exact answering.renderBlocks (blockSizes frames)
  | renderSamples frames =>
      have after := answering.renderBlocks (blockSizes frames)
      exact ⟨after.table, after.answered⟩

/-- Throughout an informed session all channels are answered. -/
theorem run
    [Transcendental]
    {actions : List Action}
    (informed : ∀ action ∈ actions, action.informs)
    {synth : Synth}
    (answering : synth.Answering) :
    (synth.run actions).Answering := by
  induction actions generalizing synth with
  | nil =>
      exact answering
  | cons action rest inductionHypothesis =>
      exact inductionHypothesis
        (fun later member => informed later (List.mem_cons_of_mem action member))
        (answering.act (informed action (by simp)))

end Answering

end Synth

/-! ## The quality of a channel depends on the loaded banks alone -/

/-- The quality of the best answer of some banks, which is none if they have none. -/
structure BestQuality
    (loaded : Bank → Prop)
    (bankNumber program : Nat)
    (quality : MatchQuality) : Prop where
  highest :
    ∀ bank,
      loaded bank →
      ∀ index other,
        matchIn? bankNumber program bank = some (index, other) →
        other.rank ≤ quality.rank
  reached :
    1 ≤ quality.rank →
    ∃ bank index,
      loaded bank ∧
        matchIn? bankNumber program bank = some (index, quality)

/-- There is only one best quality. -/
theorem BestQuality.unique
    {loaded : Bank → Prop}
    {bankNumber program : Nat}
    {first second : MatchQuality}
    (firstBest : BestQuality loaded bankNumber program first)
    (secondBest : BestQuality loaded bankNumber program second) :
    first = second := by
  have notBelow
      {one other : MatchQuality}
      (oneBest : BestQuality loaded bankNumber program one)
      (otherBest : BestQuality loaded bankNumber program other) :
      one.rank ≤ other.rank := by
    by_cases some : 1 ≤ one.rank
    · obtain ⟨bank, index, isLoaded, matched⟩ := oneBest.reached some
      exact otherBest.highest bank isLoaded index one matched
    · omega
  exact MatchQuality.eq_of_rank_eq
    (Nat.le_antisymm (notBelow firstBest secondBest)
      (notBelow secondBest firstBest))

/-- A channel that was not told what to play has the best quality there is. -/
theorem Channel.Answered.bestQuality
    {banks : BankTable}
    {channel : Channel}
    (answered : channel.Answered banks)
    (unselected : ¬ channel.binding.isSelected) :
    BestQuality (fun bank => ∃ entry ∈ banks.entries, entry.bank = bank)
      channel.bankNumber channel.program channel.binding.quality := by
  unfold Channel.Answered at answered
  generalize channel.binding = binding at answered unselected ⊢
  cases answered with
  | selected found addressed => exact absurd rfl unselected
  | @resolved found entry loaded answer surpasses =>
      refine ⟨?_, fun _ => ?_⟩
      · rintro bank ⟨other, member, rfl⟩ index quality matched
        exact surpasses other member ⟨other.id, index, quality⟩
          (candidate?_eq_some_iff.mpr ⟨rfl, matched⟩)
      · exact ⟨entry.bank, found.preset,
          ⟨entry, (BankTable.mem_of_get? loaded).1, rfl⟩,
          (candidate?_eq_some_iff.mp answer).2⟩
  | noInstrument noneAnswers =>
      refine ⟨?_, fun some => absurd some (by decide)⟩
      rintro bank ⟨other, member, rfl⟩ index quality matched
      have none := candidate?_eq_none_iff.mp (noneAnswers other member)
      rw [matched] at none
      cases none

namespace Synth

variable [Transcendental]

/--
At every point of a session that informs the channels of all banks that come or
go, a channel is bound to the preset of just the address it asks for in the bank
that was selected for it; or to the match of a loaded bank that no loaded bank
betters; or to nothing, where no loaded bank has any match.  So two channels, of
one such session or of two, that ask for the same and were not told where to
find it are served equally well, if the same banks are loaded for both.
-/
theorem run_channels_resolve_best
    (configuration : SynthConfiguration)
    (actions : List Action)
    (informed : ∀ action ∈ actions, action.informs) :
    let synth := (Synth.new configuration).run actions
    (∀ channel ∈ synth.channels,
      (∃ id preset entry,
        channel.binding = .selected id preset ∧
          synth.banks.get? id = some entry ∧
          entry.bank.presetIndex? channel.bankNumber channel.program =
            some preset) ∨
        (∃ found entry,
          channel.binding = .resolved found ∧
            synth.banks.get? found.bankId = some entry ∧
            matchIn? channel.bankNumber channel.program entry.bank =
              some (found.preset, found.quality) ∧
            ∀ other ∈ synth.banks.entries,
              ∀ index quality,
                matchIn? channel.bankNumber channel.program other.bank =
                  some (index, quality) →
                ¬ quality.exceeds found.quality) ∨
        (channel.binding = .noInstrument ∧
          ∀ entry ∈ synth.banks.entries,
            matchIn? channel.bankNumber channel.program entry.bank =
              none)) ∧
      ∀ (otherConfiguration : SynthConfiguration)
          (otherActions : List Action),
        (∀ action ∈ otherActions, action.informs) →
        let other := (Synth.new otherConfiguration).run otherActions
        (∀ bank,
          (∃ entry ∈ synth.banks.entries, entry.bank = bank) ↔
            ∃ entry ∈ other.banks.entries, entry.bank = bank) →
        ∀ first ∈ synth.channels,
          ∀ second ∈ other.channels,
            ¬ first.binding.isSelected →
            ¬ second.binding.isSelected →
            first.bankNumber = second.bankNumber →
            first.program = second.program →
            first.binding.quality = second.binding.quality := by
  intro synth
  have answering : synth.Answering :=
    Answering.run informed (Answering.new configuration)
  refine ⟨?_, ?_⟩
  · intro channel member
    have answered := answering.answered channel member
    unfold Channel.Answered at answered
    generalize channel.binding = binding at answered ⊢
    cases answered with
    | selected found addressed =>
        exact .inl ⟨_, _, _, rfl, found, addressed⟩
    | resolved loaded answer surpasses =>
        have matched := (candidate?_eq_some_iff.mp answer).2
        refine .inr (.inl ⟨_, _, rfl, loaded, matched, ?_⟩)
        intro other otherMember index quality otherMatched
        have notBelow :=
          surpasses other otherMember ⟨other.id, index, quality⟩
            (candidate?_eq_some_iff.mpr ⟨rfl, otherMatched⟩)
        simpa [MatchQuality.exceeds] using notBelow
    | noInstrument noneAnswers =>
        exact .inr (.inr ⟨rfl, fun entry entryMember =>
          candidate?_eq_none_iff.mp (noneAnswers entry entryMember)⟩)
  · intro otherConfiguration otherActions otherInformed other sameBanks
      first firstMember second secondMember firstFree secondFree
      sameBankNumber sameProgram
    have otherAnswering : other.Answering :=
      Answering.run otherInformed (Answering.new otherConfiguration)
    have firstBest :=
      (answering.answered first firstMember).bestQuality firstFree
    have secondBest :=
      (otherAnswering.answered second secondMember).bestQuality secondFree
    rw [funext fun bank => propext (sameBanks bank), sameBankNumber,
      sameProgram] at firstBest
    exact firstBest.unique secondBest

end Synth

namespace Synth

open SharedEngine (clickBank soloConfiguration)

/-- A bank whose only preset is not where channels look for it at first. -/
def chimeBank : Bank where
  name := "chime"
  samples := #[0, 4000, -4000, 0]
  presets := [⟨"chime", 8, 0, [.playing (.spanning 0 4 44100)]⟩]
  faultFree := by decide

/-- One channel and one voice, with room for two banks. -/
def duoConfiguration : SynthConfiguration :=
  { soloConfiguration with maxBanks := 2 }

/-- A better bank comes before the chime, and goes again. -/
def fallingBack : List Action :=
  [.control (fun _ => .loaded clickBank) (.load "click" true),
    .control (fun _ => .loaded chimeBank) (.load "chime" true),
    .control (fun _ => .loaded chimeBank) (.unload ⟨1⟩ true)]

/-- The chime is all that is ever loaded. -/
def chiming : List Action :=
  [.control (fun _ => .loaded chimeBank) (.addBank chimeBank true)]

theorem falling_back_is_chiming :
    (∀ action ∈ fallingBack, action.informs) ∧
      (∀ action ∈ chiming, action.informs) ∧
      let synth := (Synth.new duoConfiguration).run fallingBack
      let other := (Synth.new soloConfiguration).run chiming
      ∃ first ∈ synth.channels,
        ∃ second ∈ other.channels,
          first.binding = .resolved ⟨⟨2⟩, 0, .sameProgram⟩ ∧
            second.binding = .resolved ⟨⟨1⟩, 0, .sameProgram⟩ ∧
            first.binding.quality = second.binding.quality := by
  have informed : ∀ action ∈ fallingBack, action.informs := by
    simp [fallingBack, Action.informs, Command.informs]
  have otherInformed : ∀ action ∈ chiming, action.informs := by
    simp [chiming, Action.informs, Command.informs]
  have entries :
      ((Synth.new duoConfiguration).run fallingBack).banks.entries =
        [⟨⟨2⟩, chimeBank⟩] := by
    rfl
  have otherEntries :
      ((Synth.new soloConfiguration).run chiming).banks.entries =
        [⟨⟨1⟩, chimeBank⟩] := by
    rfl
  obtain ⟨-, sameQuality⟩ :=
    run_channels_resolve_best duoConfiguration fallingBack informed
  have same :=
    sameQuality soloConfiguration chiming otherInformed
      (by simp [entries, otherEntries])
      _ (List.mem_cons_self ..) _ (List.mem_cons_self ..)
      (by decide) (by decide) rfl rfl
  exact ⟨informed, otherInformed, _, List.mem_cons_self .., _,
    List.mem_cons_self .., rfl, rfl, same⟩

end Synth

end Polyphony.Engine
