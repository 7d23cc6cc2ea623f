import Polyphony.Configuration
import Polyphony.Proofs.SettingCalls

/-!
# Checks in order

Settings are read and values are checked one after the other, and the first
check that fails is reported.  A reader is described by the checks that it makes
in their order and by what it gives if all of them hold; what follows it adds
its checks to the end.
-/

namespace Polyphony

/-- A check of a configuration, and what is reported if it fails. -/
structure ConfigurationCheck where
  holds : Prop
  fault : ConfigurationFault

/-- What is reported of checks in order: the first that fails, if there is one. -/
inductive Reports :
    List ConfigurationCheck → Option ConfigurationFault → Prop where
  | nothing : Reports [] none
  | fails
      {check : ConfigurationCheck}
      {later : List ConfigurationCheck}
      (failing : ¬ check.holds) :
      Reports (check :: later) (some check.fault)
  | passes
      {check : ConfigurationCheck}
      {later : List ConfigurationCheck}
      {report : Option ConfigurationFault}
      (passing : check.holds)
      (next : Reports later report) :
      Reports (check :: later) report

/-- A reader gives a value if all checks hold, and else what is reported. -/
inductive Answers
    {Value : Type}
    (checks : List ConfigurationCheck)
    (value : Value) :
    Except ConfigurationFault Value → Prop where
  | accepted
      (faultless : Reports checks none) :
      Answers checks value (.ok value)
  | refused
      {fault : ConfigurationFault}
      (reported : Reports checks (some fault)) :
      Answers checks value (.error fault)

namespace Reports

variable
  {checks first second later : List ConfigurationCheck}
  {check : ConfigurationCheck}
  {report other : Option ConfigurationFault}
  {fault : ConfigurationFault}

@[simp]
theorem nil_iff : Reports [] report ↔ report = none := by
  constructor
  · rintro ⟨⟩
    rfl
  · rintro rfl
    exact .nothing

@[simp]
theorem cons_iff :
    Reports (check :: later) report ↔
      (¬ check.holds ∧ report = some check.fault) ∨
        (check.holds ∧ Reports later report) := by
  constructor
  · rintro (_ | failing | ⟨passing, next⟩)
    · exact .inl ⟨failing, rfl⟩
    · exact .inr ⟨passing, next⟩
  · rintro (⟨failing, rfl⟩ | ⟨passing, next⟩)
    · exact .fails failing
    · exact .passes passing next

theorem none_iff :
    Reports checks none ↔ ∀ check ∈ checks, check.holds := by
  induction checks with
  | nil => simp
  | cons check later inductionHypothesis => simp [inductionHypothesis]

/-- Something is reported of every list of checks, be it nothing. -/
theorem exists_report (checks : List ConfigurationCheck) :
    ∃ report, Reports checks report := by
  induction checks with
  | nil => exact ⟨none, .nothing⟩
  | cons check later inductionHypothesis =>
      by_cases passing : check.holds
      · obtain ⟨report, next⟩ := inductionHypothesis
        exact ⟨report, .passes passing next⟩
      · exact ⟨some check.fault, .fails passing⟩

/-- Only one thing is ever reported of a list of checks. -/
theorem unique
    (reported : Reports checks report)
    (again : Reports checks other) :
    report = other := by
  induction reported with
  | nothing => exact (nil_iff.mp again).symm
  | fails failing =>
      rcases cons_iff.mp again with ⟨-, same⟩ | ⟨passing, -⟩
      · exact same.symm
      · exact absurd passing failing
  | passes passing _ inductionHypothesis =>
      rcases cons_iff.mp again with ⟨failing, -⟩ | ⟨-, next⟩
      · exact absurd passing failing
      · exact inductionHypothesis next

/-- What is reported is the fault of a check that fails. -/
theorem exists_failing (reported : Reports checks (some fault)) :
    ∃ check ∈ checks, ¬ check.holds ∧ check.fault = fault := by
  induction checks with
  | nil => cases reported
  | cons check later inductionHypothesis =>
      rcases cons_iff.mp reported with ⟨failing, same⟩ | ⟨-, next⟩
      · exact ⟨check, List.mem_cons_self, failing,
          (Option.some.inj same).symm⟩
      · obtain ⟨failed, member, failing⟩ := inductionHypothesis next
        exact ⟨failed, List.mem_cons_of_mem check member, failing⟩

/-- Of checks after others something is reported only if those others hold. -/
theorem append_iff :
    Reports (first ++ second) report ↔
      (report ≠ none ∧ Reports first report) ∨
        (Reports first none ∧ Reports second report) := by
  induction first with
  | nil => simp
  | cons check later inductionHypothesis =>
      rw [List.cons_append, cons_iff, inductionHypothesis]
      by_cases passing : check.holds
      · simp [passing]
      · cases report <;> simp [passing]

/-- A choice that a check decides. -/
theorem ite
    {failed : Prop}
    [Decidable failed]
    (decides : failed ↔ ¬ check.holds)
    (next : Reports checks report) :
    Reports (check :: checks)
      (if failed then some check.fault else report) := by
  split
  · rename_i failing
    exact .fails (decides.mp failing)
  · rename_i passing
    exact .passes (not_not.mp (decides.not.mp passing)) next

end Reports

namespace Answers

variable
  {Value Other : Type}
  {checks first second : List ConfigurationCheck}
  {value other : Value}
  {answer : Except ConfigurationFault Value}
  {fault : ConfigurationFault}

theorem eq_ok_iff (answers : Answers checks value answer) :
    answer = .ok other ↔
      (∀ check ∈ checks, check.holds) ∧ value = other := by
  rw [← Reports.none_iff]
  cases answers with
  | accepted faultless => simp [faultless]
  | refused reported =>
      have faulty : ¬ Reports checks none := fun faultless => by
        cases reported.unique faultless
      simp [faulty]

theorem eq_error_iff (answers : Answers checks value answer) :
    answer = .error fault ↔ Reports checks (some fault) := by
  cases answers with
  | accepted faultless =>
      have unfaulty : ¬ Reports checks (some fault) := fun reported => by
        cases reported.unique faultless
      simp [unfaulty]
  | refused reported =>
      constructor
      · rintro ⟨⟩
        exact reported
      · intro again
        cases reported.unique again
        rfl

theorem given : Answers [] value (.ok value) :=
  .accepted .nothing

/-- What follows a reader makes its checks after those of the reader. -/
theorem bind
    {next : Value → Except ConfigurationFault Other}
    {result : Other}
    (answers : Answers first value answer)
    (follows : Answers second result (next value)) :
    Answers (first ++ second) result (answer >>= next) := by
  cases answers with
  | accepted faultless =>
      change Answers (first ++ second) result (next value)
      generalize next value = rest at follows
      cases follows with
      | accepted none =>
          exact .accepted (Reports.append_iff.mpr (.inr ⟨faultless, none⟩))
      | refused reported =>
          exact .refused
            (Reports.append_iff.mpr (.inr ⟨faultless, reported⟩))
  | refused reported =>
      exact .refused (Reports.append_iff.mpr (.inl ⟨by simp, reported⟩))

/-- A value that a check decides on. -/
theorem of_check
    {passed : Prop}
    [Decidable passed]
    {check : ConfigurationCheck}
    (decides : passed ↔ check.holds) :
    Answers [check] value
      (if passed then .ok value else .error check.fault) := by
  split
  · rename_i passing
    exact .accepted (.passes (decides.mp passing) .nothing)
  · rename_i failing
    exact .refused (.fails (decides.not.mp failing))

/-- What was wrong with a configuration is wrapped up for those who asked. -/
theorem mapError_eq_ok_iff (answers : Answers checks value answer) :
    answer.mapError SynthError.invalidConfiguration = .ok other ↔
      (∀ check ∈ checks, check.holds) ∧ value = other := by
  rw [← answers.eq_ok_iff]
  cases answer <;> simp [Except.mapError]

theorem mapError_eq_error_iff
    {error : SynthError}
    (answers : Answers checks value answer) :
    answer.mapError SynthError.invalidConfiguration = .error error ↔
      ∃ fault,
        error = .invalidConfiguration fault ∧
          Reports checks (some fault) := by
  simp only [← answers.eq_error_iff]
  cases answer <;> simp [Except.mapError, eq_comm]

end Answers

/-! ## Settings that are read -/

namespace Settings

/-- The check that a name has no value but of a kind. -/
def kindCheck
    (settings : Settings)
    (name : String)
    (kind : SettingKind) :
    ConfigurationCheck where
  holds := settings.Holds name kind
  fault := .mistyped
    ⟨name, ((settings.get? name).map SettingValue.kind).getD kind, kind⟩

/-- The checks that a reader makes of the kinds of some names, in their order. -/
def kindChecks
    (settings : Settings)
    (keys : List (String × SettingKind)) :
    List ConfigurationCheck :=
  keys.map fun key => settings.kindCheck key.1 key.2

/-- Kinds that are checked first are complained of exactly if one is wrong. -/
theorem exists_mistyped_iff
    {settings : Settings}
    {keys : List (String × SettingKind)}
    {further : List ConfigurationCheck}
    (others :
      ∀ check ∈ further, ∀ setting, check.fault ≠ .mistyped setting) :
    (∃ setting,
        Reports (settings.kindChecks keys ++ further)
          (some (.mistyped setting))) ↔
      ∃ key ∈ keys, ¬ settings.Holds key.1 key.2 := by
  constructor
  · rintro ⟨setting, reported⟩
    obtain ⟨check, member, failing, isFault⟩ := reported.exists_failing
    rcases List.mem_append.mp member with first | later
    · obtain ⟨key, isKey, rfl⟩ := List.mem_map.mp first
      exact ⟨key, isKey, failing⟩
    · exact absurd isFault (others check later setting)
  · rintro ⟨key, isKey, wrong⟩
    obtain ⟨report, reported⟩ :=
      Reports.exists_report (settings.kindChecks keys)
    cases report with
    | none =>
        have right := Reports.none_iff.mp reported _ (List.mem_map_of_mem isKey)
        exact absurd right wrong
    | some fault =>
        obtain ⟨check, member, -, isFault⟩ := reported.exists_failing
        obtain ⟨failed, -, rfl⟩ := List.mem_map.mp member
        exact ⟨_, Reports.append_iff.mpr (.inl ⟨by simp, isFault ▸ reported⟩)⟩

variable (settings : Settings) (name : String)

/-- What is read of a name is checked for its kind, and for nothing else. -/
theorem answers_of_requireKind
    {Value : Type}
    (kind : SettingKind)
    (value : Value) :
    Answers [settings.kindCheck name kind] value
      (mistypedFault do
        settings.requireKind name kind
        return value) := by
  unfold requireKind
  cases held : settings.get? name with
  | none =>
      have absent : settings.Holds name kind := by simp [Holds, held]
      exact .accepted (.passes absent .nothing)
  | some found =>
      have isFault :
          (settings.kindCheck name kind).fault =
            .mistyped ⟨name, found.kind, kind⟩ := by
        simp [kindCheck, held]
      by_cases isKind : found.kind = kind
      · have present : settings.Holds name kind := by simp [Holds, held, isKind]
        simp only [if_pos isKind]
        exact .accepted (.passes present .nothing)
      · have mistyped : ¬ settings.Holds name kind := by
          simp [Holds, held, isKind]
        simp only [if_neg isKind]
        change Answers _ value (.error (.mistyped ⟨name, found.kind, kind⟩))
        rw [← isFault]
        exact .refused (.fails mistyped)

theorem answers_textOr (default : String) :
    Answers [settings.kindCheck name .text]
      ((settings.text? name).getD default)
      (mistypedFault (settings.textOr name default)) :=
  settings.answers_of_requireKind name .text _

theorem answers_numberOr (default : Float) :
    Answers [settings.kindCheck name .number]
      ((settings.number? name).getD default)
      (mistypedFault (settings.numberOr name default)) :=
  settings.answers_of_requireKind name .number _

theorem answers_integerOr (default : Int) :
    Answers [settings.kindCheck name .integer]
      ((settings.integer? name).getD default)
      (mistypedFault (settings.integerOr name default)) :=
  settings.answers_of_requireKind name .integer _

end Settings

end Polyphony
