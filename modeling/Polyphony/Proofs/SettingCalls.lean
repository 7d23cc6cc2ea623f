import Mathlib.Data.List.Induction
import Polyphony.Settings

/-!
# Calls that set

A store that is filled by calls alone has values of the right kinds only: a call
with a value of another kind is refused, and changes nothing.  What is read of a
name is what the last call gave it that was not refused.
-/

namespace Polyphony

/-- A call that gives a value to a name. -/
inductive SettingCall where
  | setText (name value : String)
  | setNumber (name : String) (value : Float)
  | setInteger (name : String) (value : Int)

namespace SettingCall

/-- The name that a call is about. -/
def name : SettingCall → String
  | .setText name _ => name
  | .setNumber name _ => name
  | .setInteger name _ => name

/-- The value that a call gives. -/
def value : SettingCall → SettingValue
  | .setText _ value => .text value
  | .setNumber _ value => .number value
  | .setInteger _ value => .integer value

/-- The kind of its value is that which the name takes, if it takes just one. -/
def WellTyped (call : SettingCall) : Prop :=
  ∀ kind,
    SettingName.expectedKind? call.name = some kind →
    call.value.kind = kind

/-- What a call answers: the store with the value, or why it was refused. -/
def answer
    (settings : Settings)
    (call : SettingCall) :
    Except SettingRefusal Settings :=
  settings.set call.name call.value

/-- The last well-typed one of the calls for a name gives it this value. -/
def LastGives
    (name : String)
    (value : SettingValue)
    (calls : List SettingCall) : Prop :=
  ∃ earlier call later,
    calls = earlier ++ call :: later ∧
      call.name = name ∧ call.WellTyped ∧ call.value = value ∧
        ∀ other ∈ later, other.name = name → ¬ other.WellTyped

end SettingCall

namespace Settings

/-- The store after a call, which is as before if the call was refused. -/
def afterCall
    (settings : Settings)
    (call : SettingCall) :
    Settings :=
  match call.answer settings with
  | .ok changed => changed
  | .error _ => settings

/-- The store that is left of an empty one by a series of calls. -/
def afterCalls (calls : List SettingCall) : Settings :=
  calls.foldl afterCall empty

/-- A name has no value but of a kind. -/
def Holds
    (settings : Settings)
    (name : String)
    (kind : SettingKind) : Prop :=
  ∀ value, settings.get? name = some value → value.kind = kind

/-- Each recognized name that has a value has one of the kind that it takes. -/
def TypeSafe (settings : Settings) : Prop :=
  ∀ name kind,
    SettingName.expectedKind? name = some kind →
    settings.Holds name kind

/-! ## The store -/

theorem lookup_cons_eq
    (name other : String)
    (value : SettingValue)
    (rest : List (String × SettingValue)) :
    ((name, value) :: rest).lookup other =
      if other = name then some value else rest.lookup other := by
  by_cases same : other = name
  · simp [same]
  · rw [List.lookup_cons, beq_false_of_ne same, if_neg same]

theorem lookup_putEntry
    (name other : String)
    (value : SettingValue)
    (entries : List (String × SettingValue)) :
    (putEntry name value entries).lookup other =
      if other = name then some value else entries.lookup other := by
  induction entries with
  | nil => exact lookup_cons_eq name other value []
  | cons entry rest inductionHypothesis =>
      obtain ⟨key, held⟩ := entry
      rw [lookup_cons_eq key, putEntry]
      split
      · rename_i replaced
        cases replaced
        rw [lookup_cons_eq]
        split <;> rfl
      · rename_i kept
        split
        · rw [lookup_cons_eq, lookup_cons_eq]
        · rw [lookup_cons_eq, inductionHypothesis]
          split
          · rename_i isKey
            rw [if_neg fun isName => kept (isName.symm.trans isKey)]
          · rfl

/-- A value is read back by its name, and only by it. -/
theorem get?_put
    (name other : String)
    (value : SettingValue)
    (settings : Settings) :
    (settings.put name value).get? other =
      if other = name then some value else settings.get? other :=
  lookup_putEntry name other value settings.entries

/-! ## One call -/

section Call

variable {settings : Settings} {call : SettingCall}

theorem answer_of_wellTyped (wellTyped : call.WellTyped) :
    call.answer settings = .ok (settings.put call.name call.value) := by
  unfold SettingCall.answer set
  split
  · rename_i expected takes
    exact if_pos (wellTyped expected takes)
  · rfl

/-- A call is refused exactly if its value is not of the kind that is taken. -/
theorem answer_eq_error_iff {refusal : SettingRefusal} :
    call.answer settings = .error refusal ↔
      refusal.name = call.name ∧
        SettingName.expectedKind? call.name = some refusal.expected ∧
        call.value.kind ≠ refusal.expected := by
  constructor
  · intro refused
    unfold SettingCall.answer set at refused
    split at refused
    · rename_i expected takes
      split at refused
      · cases refused
      · rename_i other
        cases refused
        exact ⟨rfl, takes, other⟩
    · cases refused
  · obtain ⟨name, expected⟩ := refusal
    rintro ⟨rfl, takes, other⟩
    simp only [SettingCall.answer, set, takes, if_neg other]

theorem answer_of_not_wellTyped (mistyped : ¬ call.WellTyped) :
    ∃ refusal, call.answer settings = .error refusal := by
  obtain ⟨expected, unmet⟩ := not_forall.mp mistyped
  obtain ⟨takes, other⟩ := Classical.not_imp.mp unmet
  exact ⟨⟨call.name, expected⟩, answer_eq_error_iff.mpr ⟨rfl, takes, other⟩⟩

/-- A call is accepted exactly if its value is of the kind that is taken. -/
theorem exists_answer_iff :
    (∃ changed, call.answer settings = .ok changed) ↔ call.WellTyped := by
  constructor
  · rintro ⟨changed, accepted⟩
    by_contra mistyped
    obtain ⟨refusal, refused⟩ := answer_of_not_wellTyped mistyped
    rw [accepted] at refused
    cases refused
  · intro wellTyped
    exact ⟨_, answer_of_wellTyped wellTyped⟩

theorem afterCall_of_wellTyped (wellTyped : call.WellTyped) :
    settings.afterCall call = settings.put call.name call.value := by
  simp only [afterCall, answer_of_wellTyped wellTyped]

theorem afterCall_of_refused
    {refusal : SettingRefusal}
    (refused : call.answer settings = .error refusal) :
    settings.afterCall call = settings := by
  simp only [afterCall, refused]

theorem afterCall_of_not_wellTyped (mistyped : ¬ call.WellTyped) :
    settings.afterCall call = settings := by
  obtain ⟨refusal, refused⟩ := answer_of_not_wellTyped mistyped
  exact afterCall_of_refused refused

theorem TypeSafe.afterCall (safe : settings.TypeSafe) :
    (settings.afterCall call).TypeSafe := by
  by_cases wellTyped : call.WellTyped
  · rw [afterCall_of_wellTyped wellTyped]
    intro name kind takes value held
    rw [get?_put] at held
    split at held
    · rename_i same
      cases held
      exact wellTyped kind (same ▸ takes)
    · exact safe name kind takes value held
  · rwa [afterCall_of_not_wellTyped wellTyped]

end Call

/-! ## Series of calls -/

theorem afterCalls_concat
    (calls : List SettingCall)
    (call : SettingCall) :
    afterCalls (calls ++ [call]) = (afterCalls calls).afterCall call := by
  simp [afterCalls]

/-- No series of calls gives a recognized name a value of another kind. -/
theorem typeSafe_afterCalls (calls : List SettingCall) :
    (afterCalls calls).TypeSafe := by
  induction calls using List.reverseRecOn with
  | nil =>
      intro name kind _ value held
      cases held
  | append_singleton calls call inductionHypothesis =>
      rw [afterCalls_concat]
      exact inductionHypothesis.afterCall

end Settings

/-- A well-typed call for the name is the last; any other leaves the last one. -/
theorem SettingCall.lastGives_concat_iff
    {name : String}
    {value : SettingValue}
    {calls : List SettingCall}
    {call : SettingCall} :
    LastGives name value (calls ++ [call]) ↔
      (call.name = name ∧ call.WellTyped ∧ call.value = value) ∨
        ((call.name = name → ¬ call.WellTyped) ∧
          LastGives name value calls) := by
  constructor
  · rintro ⟨earlier, giver, later, split, isName, wellTyped, gives, last⟩
    rcases List.eq_nil_or_concat later with rfl | ⟨between, final, rfl⟩
    · obtain ⟨-, isGiver⟩ := List.append_inj' split rfl
      cases isGiver
      exact .inl ⟨isName, wellTyped, gives⟩
    · rw [List.concat_eq_append] at split last
      rw [← List.cons_append, ← List.append_assoc] at split
      obtain ⟨rfl, isFinal⟩ := List.append_inj' split rfl
      cases isFinal
      refine .inr ⟨last call (by simp), earlier, giver, between, rfl, isName,
        wellTyped, gives, ?_⟩
      intro other member
      exact last other (List.mem_append_left [call] member)
  · rintro (⟨isName, wellTyped, gives⟩ |
      ⟨final, earlier, giver, later, rfl, isName, wellTyped, gives, last⟩)
    · exact ⟨calls, call, [], rfl, isName, wellTyped, gives, by simp⟩
    · refine ⟨earlier, giver, later ++ [call], by simp, isName, wellTyped,
        gives, ?_⟩
      intro other member
      rcases List.mem_append.mp member with before | here
      · exact last other before
      · rw [List.mem_singleton.mp here]
        exact final

namespace Settings

/-- What is read of a name is what its last well-typed call gave it. -/
theorem get?_afterCalls_eq_some_iff
    {name : String}
    {value : SettingValue}
    {calls : List SettingCall} :
    (afterCalls calls).get? name = some value ↔
      SettingCall.LastGives name value calls := by
  induction calls using List.reverseRecOn with
  | nil =>
      constructor
      · rintro ⟨⟩
      · rintro ⟨earlier, call, later, split, -⟩
        exact absurd split.symm (by simp)
  | append_singleton calls call inductionHypothesis =>
      rw [afterCalls_concat, SettingCall.lastGives_concat_iff,
        ← inductionHypothesis]
      by_cases wellTyped : call.WellTyped
      · rw [afterCall_of_wellTyped wellTyped, get?_put]
        by_cases isName : call.name = name
        · simp [isName, wellTyped]
        · simp [isName, Ne.symm isName]
      · simp [afterCall_of_not_wellTyped wellTyped, wellTyped]

end Settings

end Polyphony
