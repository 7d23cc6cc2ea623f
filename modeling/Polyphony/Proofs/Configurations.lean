import Polyphony.Proofs.Number.Signs
import Polyphony.Proofs.OrderedChecks

/-!
# Configurations are what settings hold

A configuration is made of a store exactly if each of its names has no value or
one of its kind, and the values, with the defaults for those that are missing,
are in their ranges; it has these values then.  Otherwise the first check that
fails is reported.  A store that calls have filled never has a value of a kind
that is complained of.
-/

namespace Polyphony.Number

/-- A finite number from one whole number to another. -/
def LiesBetween
    (least greatest : ℕ)
    (value : Float) : Prop :=
  ∃ exact, Is value exact ∧ least ≤ exact ∧ exact ≤ greatest

/-- Only finite numbers compare with both bounds. -/
theorem liesBetween_iff
    {least greatest : ℕ}
    {value : Float}
    (ordered : least ≤ greatest)
    (small : greatest ≤ 2 ^ 53) :
    Float.ofNat least ≤ value ∧ value ≤ Float.ofNat greatest ↔
      LiesBetween least greatest value := by
  have isLeast : Is (Float.ofNat least) least :=
    Double.is_ofNat_of_le (ordered.trans small)
  have isGreatest : Is (Float.ofNat greatest) greatest :=
    Double.is_ofNat_of_le small
  constructor
  · rintro ⟨above, below⟩
    exact exists_is_between isLeast isGreatest above below
  · rintro ⟨exact, isExact, above, below⟩
    exact ⟨(isLeast.le_iff isExact).mpr above,
      (isExact.le_iff isGreatest).mpr below⟩

end Polyphony.Number

namespace Polyphony

open Number (LiesBetween liesBetween_iff narrow)
open Sound (Interpolation)

/--
How a configuration is made of a store, which has some names to read and further
checks to pass: of which stores it is, what it is then, and what is reported of
the others.
-/
structure IsReadFrom
    {Configuration : Type}
    (keys : List (String × SettingKind))
    (further : Settings → List ConfigurationCheck)
    (Admits : Settings → Configuration → Prop)
    (ofSettings : Settings → Except SynthError Configuration) : Prop where
  accepted :
    ∀ settings configuration,
      ofSettings settings = .ok configuration ↔
        (∀ key ∈ keys, settings.Holds key.1 key.2) ∧
          Admits settings configuration
  refused :
    ∀ settings error,
      ofSettings settings = .error error ↔
        ∃ fault,
          error = .invalidConfiguration fault ∧
            Reports (settings.kindChecks keys ++ further settings)
              (some fault)
  mistyped :
    ∀ settings,
      (∃ key ∈ keys, ¬ settings.Holds key.1 key.2) ↔
        ∃ setting,
          ofSettings settings =
            .error (.invalidConfiguration (.mistyped setting))

/-! ## What a synthesizer reads -/

/-- The names that a synthesizer reads, in its order, with their kinds. -/
def SynthConfiguration.keys : List (String × SettingKind) :=
  [(SettingName.sampleRate, .number),
   (SettingName.midiChannels, .integer),
   (SettingName.polyphony, .integer),
   (SettingName.gain, .number),
   (SettingName.maxBanks, .integer),
   (SettingName.interpolation, .text)]

/-- The values of a synthesizer's settings, or the defaults of those without. -/
structure SynthValues where
  sampleRate : Float
  channels : Int
  polyphony : Int
  gain : Float
  maxBanks : Int
  word : String

namespace SynthValues

/-- The values in a store, with the defaults filled in. -/
def ofSettings (settings : Settings) : SynthValues where
  sampleRate := (settings.number? SettingName.sampleRate).getD
    ConfigurationDefault.sampleRate
  channels := (settings.integer? SettingName.midiChannels).getD
    ConfigurationDefault.midiChannels
  polyphony := (settings.integer? SettingName.polyphony).getD
    ConfigurationDefault.polyphony
  gain := (settings.number? SettingName.gain).getD ConfigurationDefault.gain
  maxBanks := (settings.integer? SettingName.maxBanks).getD
    ConfigurationDefault.maxBanks
  word := (settings.text? SettingName.interpolation).getD
    ConfigurationDefault.interpolation

/-- The numbers are in their ranges. -/
@[mk_iff]
structure InRange (values : SynthValues) : Prop where
  rateInRange : LiesBetween 8000 192000 values.sampleRate
  channelsInRange : 1 ≤ values.channels ∧ values.channels ≤ 256
  polyphonyInRange : 1 ≤ values.polyphony ∧ values.polyphony ≤ 65535
  gainInRange : LiesBetween 0 10 values.gain
  maxBanksInRange : 1 ≤ values.maxBanks

/-- The numbers are in their ranges, and the configuration has these values. -/
structure Admits
    (values : SynthValues)
    (configuration : SynthConfiguration) : Prop extends values.InRange where
  sampleRate : configuration.sampleRate = narrow values.sampleRate
  channels : (configuration.channels : Int) = values.channels
  polyphony : (configuration.polyphony : Int) = values.polyphony
  gain : configuration.gain = narrow values.gain
  maxBanks : (configuration.maxBanks : Int) = values.maxBanks
  interpolation : configuration.interpolation.word = values.word

/-- The check of the word, which names a method. -/
def wordCheck (values : SynthValues) : ConfigurationCheck where
  holds := ∃ method : Interpolation, method.word = values.word
  fault := .unknownInterpolation values.word

/-- The checks of the ranges. -/
def rangeChecks (values : SynthValues) : List ConfigurationCheck :=
  [⟨LiesBetween 8000 192000 values.sampleRate, .sampleRate values.sampleRate⟩,
   ⟨1 ≤ values.channels ∧ values.channels ≤ 256,
      .channelCount values.channels⟩,
   ⟨1 ≤ values.polyphony ∧ values.polyphony ≤ 65535,
      .polyphony values.polyphony⟩,
   ⟨LiesBetween 0 10 values.gain, .gain values.gain⟩,
   ⟨1 ≤ values.maxBanks, .maxBanks values.maxBanks⟩]

end SynthValues

/-! ## What an audio output reads -/

namespace OutputConfiguration

/-- The names that an audio output reads, in its order, with their kinds. -/
def keys : List (String × SettingKind) :=
  [(SettingName.audioDriver, .text),
   (SettingName.audioDevice, .text),
   (SettingName.periodSize, .integer)]

/-- How many frames a store wants to be asked for at a time. -/
def statedPeriod (settings : Settings) : Int :=
  (settings.integer? SettingName.periodSize).getD
    ConfigurationDefault.periodSize

/-- The period is in its range, and the configuration has the stated values. -/
structure Admitted
    (settings : Settings)
    (configuration : OutputConfiguration) : Prop where
  periodInRange : 16 ≤ statedPeriod settings ∧ statedPeriod settings ≤ 8192
  driver : configuration.driver =
    (settings.text? SettingName.audioDriver).getD
      ConfigurationDefault.audioDriver
  device : configuration.device =
    (settings.text? SettingName.audioDevice).getD
      ConfigurationDefault.audioDevice
  periodSize : (configuration.periodSize : Int) = statedPeriod settings

/-- The check of the period. -/
def checks (settings : Settings) : List ConfigurationCheck :=
  [⟨16 ≤ statedPeriod settings ∧ statedPeriod settings ≤ 8192,
      .periodSize (statedPeriod settings)⟩]

end OutputConfiguration

/-! ## Reading -/

namespace IsReadFrom

variable
  {Configuration : Type}
  {keys : List (String × SettingKind)}
  {further : Settings → List ConfigurationCheck}
  {Admits : Settings → Configuration → Prop}
  {ofSettings : Settings → Except SynthError Configuration}

/-- A reader that makes these checks in order, and whose further ones are not of
kinds, reads a configuration. -/
theorem of_answers
    {values : Settings → Configuration}
    {reading : Settings → Except ConfigurationFault Configuration}
    (isReading :
      ∀ settings,
        ofSettings settings =
          (reading settings).mapError .invalidConfiguration)
    (answers :
      ∀ settings,
        Answers (settings.kindChecks keys ++ further settings)
          (values settings) (reading settings))
    (admits_iff :
      ∀ settings configuration,
        Admits settings configuration ↔
          (∀ check ∈ further settings, check.holds) ∧
            values settings = configuration)
    (further_typed :
      ∀ settings,
        ∀ check ∈ further settings,
          ∀ setting, check.fault ≠ .mistyped setting) :
    IsReadFrom keys further Admits ofSettings where
  accepted settings configuration := by
    rw [isReading, (answers settings).mapError_eq_ok_iff, admits_iff,
      List.forall_mem_append, and_assoc, Settings.kindChecks,
      List.forall_mem_map]
    rfl
  refused settings error := by
    rw [isReading, (answers settings).mapError_eq_error_iff]
  mistyped settings := by
    rw [← Settings.exists_mistyped_iff (further_typed settings)]
    simp only [isReading, (answers settings).mapError_eq_error_iff,
      SynthError.invalidConfiguration.injEq, exists_eq_left']

/-- No kind is complained of if all names hold what they take. -/
theorem ne_mistyped
    {settings : Settings}
    (isRead : IsReadFrom keys further Admits ofSettings)
    (recognized :
      ∀ key ∈ keys, SettingName.expectedKind? key.1 = some key.2)
    (safe : settings.TypeSafe)
    (setting : MistypedSetting) :
    ofSettings settings ≠
      .error (.invalidConfiguration (.mistyped setting)) := by
  intro refused
  obtain ⟨key, isKey, wrong⟩ :=
    (isRead.mistyped settings).mpr ⟨setting, refused⟩
  exact wrong (safe key.1 key.2 (recognized key isKey))

end IsReadFrom

/-- A method has its word, and no other has. -/
theorem Sound.Interpolation.ofWord?_eq_some_iff
    {word : String}
    {method : Interpolation} :
    Interpolation.ofWord? word = some method ↔ method.word = word := by
  constructor
  · intro found
    simpa using List.find?_some found
  · rintro rfl
    cases method <;> decide

theorem not_both_iff
    {first second : Prop}
    [Decidable first]
    [Decidable second] :
    (!(decide first && decide second)) = true ↔ ¬ (first ∧ second) := by
  simp only [← Bool.decide_and, Bool.not_eq_true', decide_eq_false_iff_not]

namespace SynthValues

/-- The values as they are read; the method matters if the word names one. -/
def reading (values : SynthValues) : SynthReading where
  sampleRate := values.sampleRate
  channels := values.channels
  polyphony := values.polyphony
  gain := values.gain
  maxBanks := values.maxBanks
  interpolation := (Interpolation.ofWord? values.word).getD .linear

variable (values : SynthValues)

theorem answers_requireInterpolation :
    Answers [values.wordCheck] values.reading.interpolation
      (requireInterpolation values.word) := by
  dsimp only [requireInterpolation, reading]
  cases named : Interpolation.ofWord? values.word with
  | some method =>
      exact .accepted
        (.passes ⟨method, Interpolation.ofWord?_eq_some_iff.mp named⟩ .nothing)
  | none =>
      have unknown : ¬ values.wordCheck.holds := by
        rintro ⟨method, isWord⟩
        rw [Interpolation.ofWord?_eq_some_iff.mpr isWord] at named
        cases named
      exact .refused (.fails unknown)

theorem reports_fault? :
    Reports values.rangeChecks values.reading.fault? := by
  have rate_iff :
      8000 ≤ values.sampleRate ∧ values.sampleRate ≤ 192000 ↔
        LiesBetween 8000 192000 values.sampleRate :=
    liesBetween_iff (by decide) (by decide)
  have gain_iff :
      0 ≤ values.gain ∧ values.gain ≤ 10 ↔ LiesBetween 0 10 values.gain :=
    liesBetween_iff (by decide) (by decide)
  unfold SynthReading.fault?
  refine .ite ?rate <| .ite ?channels <| .ite ?polyphony <| .ite ?gain <|
    .ite ?maxBanks .nothing
  case rate => exact not_both_iff.trans rate_iff.not
  case channels => exact not_both_iff
  case polyphony => exact not_both_iff
  case gain => exact not_both_iff.trans gain_iff.not
  case maxBanks => exact not_le.symm

theorem checks_hold_iff :
    (∀ check ∈ values.wordCheck :: values.rangeChecks, check.holds) ↔
      (∃ method : Interpolation, method.word = values.word) ∧
        values.InRange := by
  simp [wordCheck, rangeChecks, inRange_iff]

theorem admits_iff
    {values : SynthValues}
    {configuration : SynthConfiguration} :
    values.Admits configuration ↔
      (∀ check ∈ values.wordCheck :: values.rangeChecks, check.holds) ∧
        values.reading.configuration = configuration := by
  rw [checks_hold_iff]
  constructor
  · rintro ⟨inRange, sampleRate, channels, polyphony, gain, maxBanks, isWord⟩
    refine ⟨⟨⟨_, isWord⟩, inRange⟩, ?_⟩
    have named := Interpolation.ofWord?_eq_some_iff.mpr isWord
    simp [SynthReading.configuration, reading, named, ← sampleRate, ← channels,
      ← polyphony, ← gain, ← maxBanks]
  · rintro ⟨⟨⟨method, isWord⟩, inRange⟩, rfl⟩
    have named := Interpolation.ofWord?_eq_some_iff.mpr isWord
    exact {
      toInRange := inRange
      sampleRate := rfl
      channels :=
        Int.toNat_of_nonneg (zero_le_one.trans inRange.channelsInRange.1)
      polyphony :=
        Int.toNat_of_nonneg (zero_le_one.trans inRange.polyphonyInRange.1)
      gain := rfl
      maxBanks := Int.toNat_of_nonneg (zero_le_one.trans inRange.maxBanksInRange)
      interpolation := by
        simpa [SynthReading.configuration, reading, named] using isWord }

end SynthValues

theorem SynthReading.answers_ofSettings (settings : Settings) :
    Answers
      (settings.kindChecks SynthConfiguration.keys ++
        [(SynthValues.ofSettings settings).wordCheck])
      (SynthValues.ofSettings settings).reading
      (SynthReading.ofSettings settings) := by
  refine (settings.answers_numberOr _ _).bind ?_
  refine (settings.answers_integerOr _ _).bind ?_
  refine (settings.answers_integerOr _ _).bind ?_
  refine (settings.answers_numberOr _ _).bind ?_
  refine (settings.answers_integerOr _ _).bind ?_
  refine (settings.answers_textOr _ _).bind ?_
  exact (SynthValues.ofSettings settings).answers_requireInterpolation.bind
    .given

namespace SynthConfiguration

/-- The further checks of a synthesizer. -/
def checks (settings : Settings) : List ConfigurationCheck :=
  (SynthValues.ofSettings settings).wordCheck ::
    (SynthValues.ofSettings settings).rangeChecks

/-- The configuration that a reading gives if its values are in their ranges. -/
def checked (reading : SynthReading) :
    Except ConfigurationFault SynthConfiguration :=
  match reading.fault? with
  | some fault => .error fault
  | none => .ok reading.configuration

theorem ofSettings_eq (settings : Settings) :
    ofSettings settings =
      (SynthReading.ofSettings settings >>= checked).mapError
        .invalidConfiguration := by
  unfold ofSettings
  cases SynthReading.ofSettings settings with
  | error fault => rfl
  | ok reading =>
      change _ = (checked reading).mapError _
      dsimp only [checked]
      cases reading.fault? <;> rfl

theorem answers_checked (values : SynthValues) :
    Answers values.rangeChecks values.reading.configuration
      (checked values.reading) := by
  have reported := values.reports_fault?
  unfold checked
  cases fault : values.reading.fault? with
  | none => exact .accepted (fault ▸ reported)
  | some _ => exact .refused (fault ▸ reported)

theorem answers_checks (settings : Settings) :
    Answers (settings.kindChecks keys ++ checks settings)
      (SynthValues.ofSettings settings).reading.configuration
      (SynthReading.ofSettings settings >>= checked) := by
  have answers :=
    (SynthReading.answers_ofSettings settings).bind
      (answers_checked (SynthValues.ofSettings settings))
  rwa [List.append_assoc] at answers

theorem isReadFrom :
    IsReadFrom keys checks
      (fun settings => (SynthValues.ofSettings settings).Admits)
      ofSettings := by
  refine .of_answers ofSettings_eq answers_checks
    (fun _ _ => SynthValues.admits_iff) ?_
  simp [checks, SynthValues.wordCheck, SynthValues.rangeChecks]

end SynthConfiguration

namespace OutputConfiguration

/-- The values that are stated; the period matters if it is in its range. -/
def stated (settings : Settings) : OutputConfiguration where
  driver := (settings.text? SettingName.audioDriver).getD
    ConfigurationDefault.audioDriver
  device := (settings.text? SettingName.audioDevice).getD
    ConfigurationDefault.audioDevice
  periodSize := (statedPeriod settings).toNat

theorem answers_reading (settings : Settings) :
    Answers (settings.kindChecks keys ++ checks settings)
      (stated settings) (reading settings) := by
  refine (settings.answers_textOr _ _).bind ?_
  refine (settings.answers_textOr _ _).bind ?_
  refine (settings.answers_integerOr _ _).bind ?_
  exact Answers.of_check (by simp [statedPeriod])

theorem admitted_iff
    {settings : Settings}
    {configuration : OutputConfiguration} :
    Admitted settings configuration ↔
      (∀ check ∈ checks settings, check.holds) ∧
        stated settings = configuration := by
  simp only [checks, List.forall_mem_singleton]
  constructor
  · rintro ⟨inRange, driver, device, periodSize⟩
    refine ⟨inRange, ?_⟩
    simp [stated, ← driver, ← device, ← periodSize]
  · rintro ⟨inRange, rfl⟩
    exact ⟨inRange, rfl, rfl, Int.toNat_of_nonneg (by omega)⟩

theorem isReadFrom :
    IsReadFrom keys checks Admitted ofSettings := by
  refine .of_answers (fun _ => rfl) answers_reading
    (fun _ _ => admitted_iff) ?_
  simp [checks]

end OutputConfiguration

end Polyphony
