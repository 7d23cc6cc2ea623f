import Polyphony.Proofs.BankDrafts
import Polyphony.Proofs.Conservation
import Polyphony.Proofs.FailedCalls
import Polyphony.Proofs.SingleNotes

/-!
# Setting a font

To set a font is to load its bank, to look for a preset among those that can
sound, and to bind a channel to the address of that preset.  A bank in which the
preset is missing is unloaded again, and nothing has changed but that a handle
is used up.  The bank stays, however, if the channel is not there; and the
channel is bound to the first preset of the address, which another one may be
that cannot sound.
-/

namespace Polyphony.Instrument

/-- What a filter lets through at a position, and where it stood before. -/
theorem getElem?_filter_eq_some_iff
    {holds : Element → Bool}
    {elements : List Element}
    {index : Nat}
    {element : Element} :
    (elements.filter holds)[index]? = some element ↔
      ∃ place,
        elements[place]? = some element ∧
          holds element ∧
          (elements.take place).countP holds = index := by
  induction elements generalizing index with
  | nil => simp
  | cons first rest inductionHypothesis =>
      -- A place in the list is the first one, or a place in the rest.
      rw [← Nat.or_exists_add_one]
      by_cases passes : holds first
      · cases index with
        | zero =>
            simp only [List.filter_cons_of_pos passes, List.take_succ_cons,
              List.countP_cons_of_pos passes]
            simp
            rintro rfl
            exact passes
        | succ index =>
            simp [List.filter_cons_of_pos passes, inductionHypothesis,
              List.countP_cons_of_pos passes]
      · have others : first = element → ¬ holds element := by
          rintro rfl
          exact passes
        simp only [List.filter_cons_of_neg passes, inductionHypothesis,
          List.take_succ_cons, List.countP_cons_of_neg passes]
        simp
        intro same own
        exact absurd own (others same)

/--
A preset is the playable one of an index if it can sound, and if so many that
can stand before it.
-/
structure Bank.ListsPlayable
    (index place : Nat)
    (preset : Preset)
    (bank : Bank) : Prop where
  present : bank.presets[place]? = some preset
  playable : preset.isPlayable
  before : (bank.presets.take place).countP Preset.isPlayable = index

theorem Bank.getElem?_playablePresets_eq_some_iff
    {index : Nat}
    {preset : Preset}
    {bank : Bank} :
    bank.playablePresets[index]? = some preset ↔
      ∃ place, bank.ListsPlayable index place preset := by
  rw [playablePresets, getElem?_filter_eq_some_iff]
  exact exists_congr fun place =>
    ⟨fun ⟨present, playable, before⟩ => ⟨present, playable, before⟩,
      fun ⟨present, playable, before⟩ => ⟨present, playable, before⟩⟩

/-- Playable presets are counted in the order in which they stand. -/
theorem Bank.ListsPlayable.index_lt
    {index other place later : Nat}
    {preset last : Preset}
    {bank : Bank}
    (lists : bank.ListsPlayable index place preset)
    (listsLater : bank.ListsPlayable other later last)
    (before : place < later) :
    index < other := by
  have counted :
      (bank.presets.take (place + 1)).countP Preset.isPlayable = index + 1 := by
    rw [List.take_add_one, lists.present, List.countP_append, lists.before]
    simp [lists.playable]
  have more :
      (bank.presets.take (place + 1)).countP Preset.isPlayable ≤
        (bank.presets.take later).countP Preset.isPlayable :=
    (List.take_sublist_take_left before).countP_le
  rw [counted, listsLater.before] at more
  exact more

/-- There is one playable preset of an index, if there is any. -/
theorem Bank.ListsPlayable.unique
    {index place other : Nat}
    {preset last : Preset}
    {bank : Bank}
    (lists : bank.ListsPlayable index place preset)
    (listsOther : bank.ListsPlayable index other last) :
    place = other := by
  rcases Nat.lt_trichotomy place other with before | same | after
  · exact absurd (lists.index_lt listsOther before) (Nat.lt_irrefl index)
  · exact same
  · exact absurd (listsOther.index_lt lists after) (Nat.lt_irrefl index)

/--
The address of a playable preset leads to it, unless a preset before it has the
same.
-/
theorem Bank.ListsPlayable.addressed
    {index place first : Nat}
    {preset : Preset}
    {bank : Bank}
    (lists : bank.ListsPlayable index place preset)
    (addressed :
      bank.presetIndex? preset.bankNumber preset.program = some first) :
    IsLeast
        (placesWhere (Preset.hasAddress preset.bankNumber preset.program ·)
          bank.presets)
        first ∧
      first ≤ place ∧
      (first = place ↔
        ∀ other ∈ bank.presets.take place,
          ¬ other.hasAddress preset.bankNumber preset.program) := by
  rw [presetIndex?_eq_findIdx?, findIdx?_eq_some_iff_isLeast] at addressed
  obtain ⟨⟨owner, present, owns⟩, least⟩ := addressed
  have atMost : first ≤ place :=
    least ⟨preset, lists.present, by simp [Preset.hasAddress]⟩
  refine ⟨⟨⟨owner, present, owns⟩, least⟩, atMost, ?_, ?_⟩
  · rintro rfl other member shares
    obtain ⟨earlier, inside, isOther⟩ := List.mem_take_iff_getElem.mp member
    have before : earlier < first := by omega
    have there : bank.presets[earlier]? = some other :=
      List.getElem?_eq_some_iff.mpr ⟨by omega, isOther⟩
    exact absurd before (Nat.not_lt.mpr (least ⟨other, there, shares⟩))
  · intro noneEarlier
    refine Nat.le_antisymm atMost (Nat.not_lt.mp fun earlier => ?_)
    have member : owner ∈ bank.presets.take place := by
      rw [← List.getElem?_take_of_lt earlier] at present
      exact List.mem_of_getElem? present
    exact noneEarlier owner member owns

/-- The address of a playable preset leads somewhere. -/
theorem Bank.exists_presetIndex?
    {index : Nat}
    {preset : Preset}
    {bank : Bank}
    (listed : bank.playablePresets[index]? = some preset) :
    ∃ first,
      bank.presetIndex? preset.bankNumber preset.program = some first := by
  cases addressed :
      bank.presetIndex? preset.bankNumber preset.program with
  | some first => exact ⟨first, rfl⟩
  | none =>
      have member : preset ∈ bank.presets :=
        (List.mem_filter.mp (List.mem_of_getElem? listed)).1
      exact absurd ⟨preset, member, rfl, rfl⟩
        (presetIndex?_eq_none_iff.mp addressed)

end Polyphony.Instrument

namespace Polyphony.Engine

open Instrument (Bank BankId Preset placesWhere)
open Number (Transcendental)
open SoundFont (BankLoader)

namespace Synth

/-! ## A bank comes, and goes again -/

/-- The handle of the next bank. -/
def nextId (synth : Synth) : BankId :=
  ⟨synth.banks.nextNumber⟩

/-- The synthesizer with one more bank. -/
def holding
    (bank : Bank)
    (synth : Synth) :
    Synth :=
  { synth with
    banks :=
      { synth.banks with
        entries := synth.banks.entries ++ [⟨synth.nextId, bank⟩]
        nextNumber := synth.banks.nextNumber + 1 } }

/-- The synthesizer without its next handle. -/
def skippingId (synth : Synth) : Synth :=
  { synth with
    banks :=
      { synth.banks with nextNumber := synth.banks.nextNumber + 1 } }

/-- Neither the table nor a channel or a voice knows of a handle. -/
structure Unread
    (id : BankId)
    (synth : Synth) : Prop where
  table : ∀ entry ∈ synth.banks.entries, entry.id ≠ id
  channels : ∀ channel ∈ synth.channels, ¬ channel.playsFrom id
  voices : ∀ voice ∈ synth.pool.voices, ¬ VoicePool.isReading id voice

/-- What is only done to elements that a list does not have changes nothing. -/
theorem map_ite_eq_self
    {condition : Element → Bool}
    {elements : List Element}
    (none : ∀ element ∈ elements, ¬ condition element)
    (change : Element → Element) :
    (elements.map fun element =>
        if condition element then change element else element) =
      elements :=
  (List.map_congr_left fun element member =>
    if_neg (none element member)).trans (List.map_id' elements)

/-- At every point of a session, nothing knows of the handle that comes next. -/
theorem run_unread
    [Transcendental]
    (configuration : SynthConfiguration)
    (actions : List Action) :
    let synth := (Synth.new configuration).run actions
    synth.Unread synth.nextId := by
  intro synth
  have bound : synth.Bound :=
    Bound.invariant.run actions (Bound.new configuration)
  have wellFormed : synth.pool.WellFormed :=
    (run_roomy configuration actions).wellFormed
  have coherent : synth.Coherent := by
    obtain ⟨steps, accepted⟩ :=
      SharedEngine.exists_run?_session actions (Synth.new configuration)
    exact SharedEngine.run?_coherent accepted
  have notNext
      {id : BankId}
      (givenOut : id.number < synth.banks.nextNumber) :
      id ≠ synth.nextId := by
    rintro rfl
    exact Nat.lt_irrefl _ givenOut
  refine ⟨?_, ?_, ?_⟩
  · intro entry member
    exact notNext (bound.table.givenOut entry member)
  · intro channel member plays
    have named : channel.binding.bankId? = some synth.nextId :=
      of_decide_eq_true plays
    simp only [Binding.bankId?, Option.map_eq_some_iff] at named
    obtain ⟨⟨id, position⟩, target, rfl⟩ := named
    obtain ⟨entry, loaded, -⟩ := bound.resolves channel member _ _ target
    obtain ⟨present, sameId⟩ := BankTable.mem_of_get? loaded
    exact notNext (bound.table.givenOut entry present) sameId
  · intro voice member reading
    have named : voice.bankId? = some synth.nextId := of_decide_eq_true reading
    rw [(wellFormed voice member).named, Option.map_eq_some_iff] at named
    obtain ⟨source, reads, sameId⟩ := named
    have held : source ∈ synth.holders :=
      List.mem_append_right _
        (List.mem_append_left _ (List.mem_filterMap.mpr ⟨voice, member, reads⟩))
    exact notNext (coherent.givenOut held) sameId

/-- The bank that came last, and is unloaded, leaves the others as they were. -/
theorem remove?_holding
    {synth : Synth}
    (unread : synth.Unread synth.nextId)
    (bank : Bank) :
    (synth.holding bank).banks.remove? synth.nextId =
      some (⟨synth.nextId, bank⟩, synth.skippingId.banks) := by
  have others :
      ∀ entry ∈ synth.banks.entries,
        ¬ decide (entry.id = synth.nextId) = true := by
    simpa using unread.table
  have found :
      (synth.holding bank).banks.get? synth.nextId =
        some ⟨synth.nextId, bank⟩ := by
    rw [BankTable.get?, holding, List.find?_append,
      List.find?_eq_none.mpr others]
    simp
  have remaining :
      (synth.holding bank).banks.entries.eraseP (·.id = synth.nextId) =
        synth.banks.entries := by
    rw [holding, List.eraseP_append_right _ others]
    simp
  rw [BankTable.remove?, found, Option.map_some, remaining]
  rfl

/-- A bank that nothing knows of yet goes as it has come. -/
theorem withdraw_holding
    {synth : Synth}
    (unread : synth.Unread synth.nextId)
    (bank : Bank) :
    ∃ withdrawal,
      (synth.holding bank).withdraw synth.nextId false =
        .ok (withdrawal, synth.skippingId) := by
  have sameVoices :
      synth.pool.forceReleaseBank synth.nextId forcedRelease = synth.pool := by
    rw [VoicePool.forceReleaseBank, VoicePool.changeWhere,
      map_ite_eq_self unread.voices]
  have removed := remove?_holding unread bank
  simp only [withdraw, removed, rebindFrom, Except.ok.injEq, Prod.mk.injEq]
  refine ⟨_, rfl, ?_⟩
  simp only [holding, skippingId, sameVoices, map_ite_eq_self unread.channels]

/-! ## What the steps of setting a font do -/

/-- A path that leads to no bank changes nothing. -/
theorem load_of_error
    {loader : BankLoader}
    {path : String}
    {error : SynthError}
    (synth : Synth)
    (failed : (loader path).bank = .error error) :
    (synth.load loader path false).result = .error error ∧
      (synth.load loader path false).synth = synth := by
  refine ⟨?_, ?_⟩
  · simp [load, failed, Outcome.after, Outcome.rejected]
  · rw [load_synth, failed]

/-- A bank that there is no room for is not loaded. -/
theorem load_of_full
    {synth : Synth}
    {loader : BankLoader}
    {path : String}
    {bank : Bank}
    (sized : synth.Sized)
    (loaded : (loader path).bank = .ok bank)
    (full : synth.configuration.maxBanks ≤ synth.banks.entries.length) :
    (synth.load loader path false).result =
        .error (.outOfBanks synth.configuration.maxBanks) ∧
      (synth.load loader path false).synth = synth.reclaimed := by
  have refused :
      synth.publish bank false =
        .error (.outOfBanks synth.configuration.maxBanks) := by
    simp [publish, BankTable.insert, sized.banks, full]
  refine ⟨?_, ?_⟩
  · simp [load, loaded, addBank, refused, concludeWith_result,
      Outcome.after, Outcome.andThen, Except.map]
  · simp [load_synth, loaded, addBank_synth, refused, afterChange]

/-- A bank that there is room for is loaded under the next handle. -/
theorem load_of_room
    {synth : Synth}
    {loader : BankLoader}
    {path : String}
    {bank : Bank}
    (sized : synth.Sized)
    (loaded : (loader path).bank = .ok bank)
    (room : synth.banks.entries.length < synth.configuration.maxBanks) :
    (synth.load loader path false).result = .ok synth.nextId ∧
      (synth.load loader path false).synth =
        (synth.holding bank).reclaimed := by
  have notFull : ¬ synth.banks.limit ≤ synth.banks.entries.length := by
    rw [sized.banks]
    exact Nat.not_le.mpr room
  have published :
      synth.publish bank false =
        .ok ((synth.nextId, []), synth.holding bank) := by
    simp [publish, BankTable.insert, notFull, holding, nextId]
  refine ⟨?_, ?_⟩
  · simp [load, loaded, addBank, published, concludeWith_result,
      Outcome.after, Outcome.andThen, Except.map]
  · simp [load_synth, loaded, addBank_synth, published, afterChange]

/-- The bank that came last is found under its handle. -/
theorem bank_holding
    {synth : Synth}
    (unread : synth.Unread synth.nextId)
    (bank : Bank) :
    (synth.holding bank).reclaimed.bank synth.nextId = .ok bank := by
  obtain ⟨found, -⟩ :=
    BankTable.remove?_eq_some (remove?_holding unread bank)
  have sameTable :
      (synth.holding bank).reclaimed.banks = (synth.holding bank).banks := rfl
  rw [Synth.bank, sameTable, found]

/-- A bank that nothing knows of yet is unloaded as it has been loaded. -/
theorem unload_holding
    {synth : Synth}
    (unread : synth.Unread synth.nextId)
    (bank : Bank) :
    ((synth.holding bank).reclaimed.unload synth.nextId false).result =
        .ok () ∧
      ((synth.holding bank).reclaimed.unload synth.nextId false).synth =
        synth.skippingId.reclaimed := by
  have unreadThen : synth.reclaimed.Unread synth.reclaimed.nextId :=
    ⟨unread.table, unread.channels, unread.voices⟩
  obtain ⟨withdrawal, withdrawn⟩ :=
    withdraw_holding unreadThen bank
  have goes :
      (synth.holding bank).reclaimed.withdraw synth.nextId false =
        .ok (withdrawal, synth.skippingId.reclaimed) := withdrawn
  refine ⟨?_, ?_⟩
  · simp [unload, concludeWith_result, goes, Except.map]
  · simp only [unload, concludeWith_synth, goes]
    rfl

/-- A channel that is not there is not bound. -/
theorem programSelect_of_channelless
    {synth : Synth}
    {channel : Nat}
    (sized : synth.Sized)
    (missing : synth.channels.length ≤ channel)
    (id : BankId)
    (bankNumber program : Nat) :
    synth.programSelect channel id bankNumber program =
      .rejected (.invalidChannel channel synth.channels.length) synth := by
  rw [sized.channels] at missing ⊢
  simp [programSelect, onChannel, channelError?, missing]

/-- A channel that is there is bound to the preset of an address, if it is. -/
theorem programSelect_of_found
    {synth : Synth}
    {channel bankNumber program first : Nat}
    {id : BankId}
    {bank : Bank}
    (sized : synth.Sized)
    (valid : channel < synth.channels.length)
    (found : synth.bank id = .ok bank)
    (addressed : bank.presetIndex? bankNumber program = some first) :
    (synth.programSelect channel id bankNumber program).result = .ok () ∧
      (synth.programSelect channel id bankNumber program).synth =
        (synth.changeChannel channel
          (Channel.select id first bankNumber program)).reclaimed := by
  have inside : ¬ synth.configuration.channels ≤ channel := by
    rw [← sized.channels]
    exact Nat.not_le.mpr valid
  have selected :
      synth.selectProgram channel id bankNumber program =
        .ok
          ((),
            synth.changeChannel channel
              (Channel.select id first bankNumber program)) := by
    unfold Synth.bank at found
    split at found
    · rename_i entry listed
      cases found
      simp [selectProgram, listed, addressed]
    · cases found
  refine ⟨?_, ?_⟩
  · simp [programSelect, onChannel, channelError?, inside, selected,
      concludeWith_result, Except.map]
  · simp [programSelect, onChannel, channelError?, inside, selected,
      afterChange]

/-- A channel that is there shows what it has been bound to. -/
theorem binding_select
    {synth : Synth}
    {channel : Nat}
    (valid : channel < synth.channels.length)
    (id : BankId)
    (preset bankNumber program : Nat) :
    (synth.changeChannel channel
        (Channel.select id preset bankNumber program)).reclaimed.binding
        channel =
      .ok (.selected id preset) := by
  have changed :
      (synth.changeChannel channel
          (Channel.select id preset bankNumber program)).reclaimed.channels[
          channel]? =
        some
          (synth.channels[channel].select id preset bankNumber program) := by
    change (synth.changeChannel _ _).channels[channel]? = _
    simp [getElem?_changeChannel, valid]
  rw [binding, changed]
  rfl

end Synth

/-! ## The ways in which setting a font ends -/

/--
A path may lead to no bank, the table may be full, the bank may have too few
playable presets, and the channel may not be there.  Otherwise the channel is
bound, to the first preset of the address.
-/
inductive FontSetting
    (loader : BankLoader)
    (path : String)
    (index channel : Nat)
    (synth : Synth) :
    Except SynthError BankId → Synth → Prop where
  | unloadable {error : SynthError} :
      (loader path).bank = .error error →
      FontSetting loader path index channel synth (.error error) synth
  | crowded {bank : Bank} :
      (loader path).bank = .ok bank →
      synth.configuration.maxBanks ≤ synth.banks.entries.length →
      FontSetting loader path index channel synth
        (.error (.outOfBanks synth.configuration.maxBanks)) synth.reclaimed
  | missing {bank : Bank} :
      (loader path).bank = .ok bank →
      synth.banks.entries.length < synth.configuration.maxBanks →
      bank.playablePresets.length ≤ index →
      FontSetting loader path index channel synth
        (.error
          (.invalidConfiguration
            (.presetIndex index bank.playablePresets.length)))
        synth.skippingId.reclaimed
  | channelless {bank : Bank} :
      (loader path).bank = .ok bank →
      synth.banks.entries.length < synth.configuration.maxBanks →
      index < bank.playablePresets.length →
      synth.channels.length ≤ channel →
      FontSetting loader path index channel synth
        (.error (.invalidChannel channel synth.channels.length))
        (synth.holding bank).reclaimed
  | bound {bank : Bank} {preset : Preset} {first : Nat} :
      (loader path).bank = .ok bank →
      synth.banks.entries.length < synth.configuration.maxBanks →
      bank.playablePresets[index]? = some preset →
      channel < synth.channels.length →
      bank.presetIndex? preset.bankNumber preset.program = some first →
      FontSetting loader path index channel synth (.ok synth.nextId)
        ((synth.holding bank).changeChannel channel
          (Channel.select synth.nextId first preset.bankNumber
            preset.program)).reclaimed

namespace MonoNotes

/-- Setting a font ends in one of these ways. -/
theorem setFont_ends
    {synth : Synth}
    (sized : synth.Sized)
    (unread : synth.Unread synth.nextId)
    (loader : BankLoader)
    (path : String)
    (index : Nat)
    (notes : MonoNotes) :
    FontSetting loader path index notes.channel synth
      (notes.setFont loader path index synth).result
      (notes.setFont loader path index synth).synth := by
  cases loaded : (loader path).bank with
  | error error =>
      obtain ⟨fails, unchanged⟩ := Synth.load_of_error synth loaded
      simpa [setFont, Outcome.andThen, fails, unchanged] using
        FontSetting.unloadable loaded
  | ok bank =>
      rcases Nat.lt_or_ge synth.banks.entries.length
        synth.configuration.maxBanks with room | full
      · obtain ⟨loads, held⟩ := Synth.load_of_room sized loaded room
        have found := Synth.bank_holding unread bank
        have heldSized : (synth.holding bank).reclaimed.Sized :=
          ⟨sized.channels, sized.banks⟩
        cases listed : bank.playablePresets[index]? with
        | none =>
            have few := List.getElem?_eq_none_iff.mp listed
            obtain ⟨unloads, gone⟩ := Synth.unload_holding unread bank
            simpa [setFont, Outcome.andThen, loads, held, found, listed,
              unloads, gone, Outcome.rejected] using
              FontSetting.missing loaded room few
        | some preset =>
            have inside := (List.getElem?_eq_some_iff.mp listed).1
            rcases Nat.lt_or_ge notes.channel synth.channels.length with
              valid | channelless
            · obtain ⟨first, addressed⟩ := bank.exists_presetIndex? listed
              obtain ⟨selects, bound⟩ :=
                Synth.programSelect_of_found heldSized valid found addressed
              have ends := FontSetting.bound loaded room listed valid addressed
              rw [setFont, Outcome.andThen, loads]
              simp only [held, found, listed, Outcome.andThen, selects, bound]
              exact ends
            · have rejected :=
                Synth.programSelect_of_channelless heldSized channelless
                  synth.nextId preset.bankNumber preset.program
              have ends :=
                FontSetting.channelless loaded room inside channelless
              rw [setFont, Outcome.andThen, loads]
              simp only [held, found, listed, Outcome.andThen, rejected]
              exact ends
      · obtain ⟨fails, unchanged⟩ := Synth.load_of_full sized loaded full
        simpa [setFont, Outcome.andThen, fails, unchanged] using
          FontSetting.crowded loaded full

end MonoNotes

/-! ## What can be wrong with a font -/

/-- A bank has to have more playable presets than the index of the one wanted. -/
def indexFaults
    (loader : BankLoader)
    (path : String)
    (index : Nat) :
    List SynthError :=
  match (loader path).bank with
  | .error _ => []
  | .ok bank =>
      let playable := bank.playablePresets.length
      if index < playable then
        []
      else
        [.invalidConfiguration (.presetIndex index playable)]

/-- All that is wrong with a font before it is a matter of who plays it. -/
def Synth.fontFaults
    (loader : BankLoader)
    (path : String)
    (index : Nat)
    (synth : Synth) :
    List SynthError :=
  loaderFaults loader path ++ synth.roomFaults ++ indexFaults loader path index

namespace FontSetting

variable {loader : BankLoader} {path : String} {index channel : Nat}
variable {synth after : Synth} {result : Except SynthError BankId}

/-- A font is set exactly if nothing is wrong, and else the first fault counts. -/
theorem result_eq_error_iff
    (ends : FontSetting loader path index channel synth result after)
    (error : SynthError) :
    result = .error error ↔
      (synth.fontFaults loader path index ++
        synth.channelFaults channel).head? = some error := by
  cases ends with
  | unloadable failed =>
      simp [Synth.fontFaults, loaderFaults, failed]
  | crowded loaded full =>
      simp [Synth.fontFaults, loaderFaults, Synth.roomFaults, loaded,
        Nat.not_lt.mpr full]
  | missing loaded room few =>
      simp [Synth.fontFaults, loaderFaults, Synth.roomFaults, indexFaults,
        loaded, room, Nat.not_lt.mpr few]
  | channelless loaded room inside missing =>
      simp [Synth.fontFaults, loaderFaults, Synth.roomFaults, indexFaults,
        Synth.channelFaults, loaded, room, inside, Nat.not_lt.mpr missing]
  | bound loaded room listed valid addressed =>
      have inside := (List.getElem?_eq_some_iff.mp listed).1
      simp [Synth.fontFaults, loaderFaults, Synth.roomFaults, indexFaults,
        Synth.channelFaults, loaded, room, inside, valid]

/--
If a font is not set, nothing has changed for channels and voices.  Nor has it
for the table, unless all that is wrong is that the channel is not there: then
the bank stays.
-/
theorem failed_cases
    {error : SynthError}
    (ends : FontSetting loader path index channel synth (.error error) after) :
    after.channels = synth.channels ∧
      after.pool.voices = synth.pool.voices ∧
      (synth.fontFaults loader path index ≠ [] ∧
          after.banks.entries = synth.banks.entries ∨
        synth.fontFaults loader path index = [] ∧
          synth.channels.length ≤ channel ∧
          ∃ bank,
            (loader path).bank = .ok bank ∧
              after.banks.entries =
                synth.banks.entries ++ [⟨synth.nextId, bank⟩]) := by
  cases ends with
  | unloadable failed =>
      refine ⟨rfl, rfl, .inl ⟨?_, rfl⟩⟩
      simp [Synth.fontFaults, loaderFaults, failed]
  | crowded loaded full =>
      refine ⟨rfl, rfl, .inl ⟨?_, rfl⟩⟩
      simp [Synth.fontFaults, Synth.roomFaults, Nat.not_lt.mpr full]
  | missing loaded room few =>
      refine ⟨rfl, rfl, .inl ⟨?_, rfl⟩⟩
      simp [Synth.fontFaults, indexFaults, loaded, Nat.not_lt.mpr few]
  | channelless loaded room inside missing =>
      refine ⟨rfl, rfl, .inr ⟨?_, missing, _, loaded, rfl⟩⟩
      simp [Synth.fontFaults, loaderFaults, Synth.roomFaults, indexFaults,
        loaded, room, inside]

end FontSetting

namespace Synth

/-- At every point of a session, setting a font ends in one of these ways. -/
theorem run_setFont_ends
    [Transcendental]
    (configuration : SynthConfiguration)
    (actions : List Action)
    (loader : BankLoader)
    (path : String)
    (index : Nat)
    (notes : MonoNotes) :
    let synth := (Synth.new configuration).run actions
    let outcome := notes.setFont loader path index synth
    synth.channels.length = configuration.channels ∧
      FontSetting loader path index notes.channel synth outcome.result
        outcome.synth := by
  intro synth outcome
  have sized : synth.Sized :=
    Sized.invariant.run actions (Sized.new configuration)
  have configured : synth.Configured configuration :=
    (Configured.invariant configuration).run actions
      (Configured.new configuration)
  exact ⟨configured.channelCount,
    notes.setFont_ends sized (run_unread configuration actions) loader path
      index⟩

/--
At every point of a session, setting a font fails exactly if something is wrong
with it: with its file, for want of room, with the index, or with the channel of
the helper, and the first of these is the error.  Channels and voices are then
as they were.  So is the table if the channel is there, or if anything else is
wrong; but if only the channel is missing, the new bank stays in the table.
-/
theorem run_failed_fonts_leave_no_bank
    [Transcendental]
    (configuration : SynthConfiguration)
    (actions : List Action)
    (loader : BankLoader)
    (path : String)
    (index : Nat)
    (notes : MonoNotes) :
    let synth := (Synth.new configuration).run actions
    let outcome := notes.setFont loader path index synth
    let faults := synth.fontFaults loader path index
    (∀ error,
      outcome.result = .error error ↔
        (faults ++ synth.channelFaults notes.channel).head? = some error) ∧
      ∀ error,
        outcome.result = .error error →
        outcome.synth.channels = synth.channels ∧
          outcome.synth.pool.voices = synth.pool.voices ∧
          (notes.channel < configuration.channels ∨ faults ≠ [] →
            outcome.synth.banks.entries = synth.banks.entries) ∧
          (configuration.channels ≤ notes.channel ∧ faults = [] →
            ∃ bank,
              (loader path).bank = .ok bank ∧
                outcome.synth.banks.entries =
                  synth.banks.entries ++ [⟨synth.nextId, bank⟩]) := by
  intro synth outcome faults
  obtain ⟨channelCount, ends⟩ :=
    run_setFont_ends configuration actions loader path index notes
  refine ⟨ends.result_eq_error_iff, fun error failed => ?_⟩
  change FontSetting _ _ _ _ synth outcome.result _ at ends
  rw [failed] at ends
  obtain ⟨sameChannels, sameVoices, table⟩ := ends.failed_cases
  refine ⟨sameChannels, sameVoices, fun kept => ?_, fun left => ?_⟩
  · rcases table with ⟨-, sameEntries⟩ | ⟨faultless, missing, -⟩
    · exact sameEntries
    · rw [channelCount] at missing
      rcases kept with valid | faulty
      · exact absurd valid (Nat.not_lt.mpr missing)
      · exact absurd faultless faulty
  · rcases table with ⟨faulty, -⟩ | ⟨-, -, stays⟩
    · exact absurd left.2 faulty
    · exact stays

open SharedEngine (clickBank soloConfiguration)

/-- The click has no second playable preset, and is unloaded again. -/
theorem short_font_leaves_no_bank :
    let synth := Synth.new soloConfiguration
    let notes := MonoNotes.new 0 100
    let outcome :=
      notes.setFont (fun _ => .loaded clickBank) "click" 1 synth
    outcome.result =
        .error (.invalidConfiguration (.presetIndex 1 1)) ∧
      outcome.synth.banks.nextNumber = 2 ∧
      outcome.synth.channels = synth.channels ∧
      outcome.synth.pool.voices = synth.pool.voices ∧
      outcome.synth.banks.entries = [] := by
  intro synth notes outcome
  obtain ⟨fails, failed⟩ :=
    run_failed_fonts_leave_no_bank soloConfiguration []
      (fun _ => .loaded clickBank) "click" 1 notes
  have missing := (fails (.invalidConfiguration (.presetIndex 1 1))).mpr rfl
  obtain ⟨sameChannels, sameVoices, sameEntries, -⟩ := failed _ missing
  exact ⟨missing, by decide +kernel, sameChannels, sameVoices,
    sameEntries (.inl (by decide))⟩

/-- A helper on a channel that is not there leaves its bank in the table. -/
theorem not_failed_fonts_leave_no_bank :
    ¬ ∀ (configuration : SynthConfiguration) (actions : List Action)
        (loader : BankLoader) (path : String) (index : Nat)
        (notes : MonoNotes) (error : SynthError),
      let synth := (Synth.new configuration).run actions
      let outcome := notes.setFont loader path index synth
      outcome.result = .error error →
      outcome.synth.banks.ids = synth.banks.ids ∧
        outcome.synth.banks.entries = synth.banks.entries ∧
        outcome.synth.channels.map (·.binding) =
          synth.channels.map (·.binding) ∧
        outcome.synth.pool.voices = synth.pool.voices := by
  intro leavesNone
  obtain ⟨sameIds, -⟩ :=
    leavesNone soloConfiguration [] (fun _ => .loaded clickBank) "click" 0
      (MonoNotes.new 1 100) (.invalidChannel 1 1) rfl
  exact absurd sameIds (by decide +kernel)

/-! ## The preset that a font binds -/

/--
At every point of a session, a font is set exactly if nothing is wrong with it.
Then the new bank is found under the handle that is answered, it has a playable
preset of the index, and the channel of the helper is bound to the first preset
of the bank that has the address of this one.  That is the playable preset
itself exactly if none of those before it, playable or not, has its address.
-/
theorem run_fonts_bind_their_address
    [Transcendental]
    (configuration : SynthConfiguration)
    (actions : List Action)
    (loader : BankLoader)
    (path : String)
    (index : Nat)
    (notes : MonoNotes) :
    let synth := (Synth.new configuration).run actions
    let outcome := notes.setFont loader path index synth
    ((∃ id, outcome.result = .ok id) ↔
        synth.fontFaults loader path index ++
            synth.channelFaults notes.channel =
          []) ∧
      ∀ id,
        outcome.result = .ok id →
        ∃ bank place preset first,
          (loader path).bank = .ok bank ∧
            outcome.synth.bank id = .ok bank ∧
            bank.ListsPlayable index place preset ∧
            outcome.synth.binding notes.channel = .ok (.selected id first) ∧
            IsLeast
              (placesWhere
                (Preset.hasAddress preset.bankNumber preset.program ·)
                bank.presets)
              first ∧
            first ≤ place ∧
            (first = place ↔
              ∀ other ∈ bank.presets.take place,
                ¬ other.hasAddress preset.bankNumber preset.program) := by
  intro synth outcome
  obtain ⟨-, ends⟩ :=
    run_setFont_ends configuration actions loader path index notes
  have unread : synth.Unread synth.nextId := run_unread configuration actions
  change FontSetting _ _ _ _ synth outcome.result outcome.synth at ends
  refine ⟨?_, fun id succeeds => ?_⟩
  · have errors := ends.result_eq_error_iff
    cases shape : outcome.result with
    | error error =>
        have first := (errors error).mp shape
        refine iff_of_false (by simp) fun faultless => ?_
        rw [faultless] at first
        cases first
    | ok id =>
        refine iff_of_true ⟨id, rfl⟩ (List.head?_eq_none_iff.mp ?_)
        refine Option.eq_none_iff_forall_ne_some.mpr fun error first => ?_
        rw [(errors error).mpr first] at shape
        cases shape
  · rw [succeeds] at ends
    generalize outcome.synth = after at ends ⊢
    cases ends with
    | @bound bank preset first loaded room listed valid addressed =>
        obtain ⟨place, lists⟩ :=
          Bank.getElem?_playablePresets_eq_some_iff.mp listed
        have validThen :
            notes.channel < (synth.holding bank).channels.length := valid
        exact ⟨bank, place, preset, first, loaded, bank_holding unread bank,
          lists,
          binding_select validThen synth.nextId first preset.bankNumber
            preset.program,
          lists.addressed addressed⟩

/-- A preset that cannot sound, and the click at another address and at its own. -/
def hollowBank : Bank where
  name := "hollow"
  samples := clickBank.samples
  presets :=
    [⟨"hollow", 0, 0, []⟩,
      ⟨"click", 0, 1, [.playing (.spanning 0 4 44100)]⟩,
      ⟨"click", 0, 0, [.playing (.spanning 0 4 44100)]⟩]
  faultFree := by decide

/-- The first playable preset has an address of its own, and is bound. -/
theorem hollow_font_binds_its_first_playable :
    let notes := MonoNotes.new 0 100
    let outcome :=
      notes.setFont (fun _ => .loaded hollowBank) "hollow" 0
        (Synth.new soloConfiguration)
    outcome.result = .ok ⟨1⟩ ∧
      hollowBank.ListsPlayable 0 1
        ⟨"click", 0, 1, [.playing (.spanning 0 4 44100)]⟩ ∧
      outcome.synth.binding 0 = .ok (.selected ⟨1⟩ 1) := by
  intro notes outcome
  obtain ⟨-, sets⟩ :=
    run_fonts_bind_their_address soloConfiguration []
      (fun _ => .loaded hollowBank) "hollow" 0 notes
  have succeeds : outcome.result = .ok ⟨1⟩ := rfl
  obtain ⟨bank, place, preset, first, loaded, -, lists, bound, -, -, own⟩ :=
    sets ⟨1⟩ succeeds
  have isHollow : hollowBank = bank := Except.ok.inj loaded
  subst bank
  have listed :
      hollowBank.ListsPlayable 0 1
        ⟨"click", 0, 1, [.playing (.spanning 0 4 44100)]⟩ :=
    ⟨rfl, by decide, by decide⟩
  have isSecond : place = 1 := lists.unique listed
  subst place
  have isClick := Option.some.inj (lists.present.symm.trans listed.present)
  subst preset
  have isFirst : first = 1 := own.mpr (by decide)
  rw [isFirst] at bound
  exact ⟨succeeds, listed, bound⟩

/-- The second playable preset has the address of one that cannot sound. -/
theorem not_fonts_bind_the_preset_asked_for :
    ¬ ∀ (configuration : SynthConfiguration) (actions : List Action)
        (loader : BankLoader) (path : String) (index : Nat)
        (notes : MonoNotes) (id : BankId) (bank : Bank) (place : Nat)
        (preset : Preset),
      let synth := (Synth.new configuration).run actions
      let outcome := notes.setFont loader path index synth
      notes.channel < configuration.channels →
      (loader path).bank = .ok bank →
      outcome.result = .ok id →
      bank.ListsPlayable index place preset →
      outcome.synth.binding notes.channel = .ok (.selected id place) := by
  intro bindsIt
  have bound :=
    bindsIt soloConfiguration [] (fun _ => .loaded hollowBank) "hollow" 1
      (MonoNotes.new 0 100) ⟨1⟩ hollowBank 2 _ (by decide) rfl rfl
      ⟨rfl, by decide, by decide⟩
  exact absurd (congrArg Except.toOption bound) (by decide +kernel)

end Synth

end Polyphony.Engine
