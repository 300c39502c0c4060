/-
Module: BoundedIngest.Proofs.Config.Partial
Purpose: What is read from a document that states some of the settings, among other things.
Main exports:
  SettingGroup, Setting, Setting.default, Setting.Admits, Setting.stated?, Setting.valueIn,
  Config.value, Config.IsTableForm, Config.Answers, Config.ofDocument?_eq_some_iff, Config.Edit,
  Config.reads_settings_alone
-/
import Mathlib.Logic.Relation
import BoundedIngest.Proofs.Config.RoundTrip
import BoundedIngest.Proofs.Toml.Range

namespace BoundedIngest

open Toml

/-!
A document states seven settings at most, in two tables.  What is read from it is settled by the
values of these seven: the one that is stated, or else the default.  So whatever leaves these values
alone, leaves the answer alone, be it about other names, about the order of names, or about defaults
that are written out.
-/

/-! ### Settings and where they are stated -/

/-- The tables that settings are in. -/
inductive SettingGroup where
  | executor
  | observability
deriving Repr, DecidableEq

def SettingGroup.name : SettingGroup → String
  | .executor => "executor"
  | .observability => "observability"

inductive Setting where
  | positive (setting : PositiveSetting)
  | sampleWarmup
  | threadNamePrefix
  | logFilter
  | metricsAddr
deriving Repr, DecidableEq

/-- The value of a setting, as a document states it. -/
def Config.value (config : Config) : Setting → Value
  | .positive setting => .integer (config.executor.positive setting).toNat
  | .sampleWarmup => .integer config.executor.sampleWarmup.toNat
  | .threadNamePrefix => .text config.executor.threadNamePrefix
  | .logFilter => .text config.observability.logFilter
  | .metricsAddr => .text config.observability.metricsAddr

namespace Setting

def group : Setting → SettingGroup
  | .positive _ | .sampleWarmup | .threadNamePrefix => .executor
  | .logFilter | .metricsAddr => .observability

def key : Setting → String
  | .positive setting => setting.key
  | .sampleWarmup => "sample_warmup"
  | .threadNamePrefix => "thread_name_prefix"
  | .logFilter => "log_filter"
  | .metricsAddr => "metrics_addr"

def default (setting : Setting) : Value := ({} : Config).value setting

/-- The value has the type of the setting and is in its range: a text, or a 64-bit word. -/
def Admits : Setting → Value → Prop
  | .positive _, value | .sampleWarmup, value => ∃ word : UInt64, value = .integer word.toNat
  | .threadNamePrefix, value | .logFilter, value | .metricsAddr, value =>
      ∃ content, value = .text content

end Setting

/-- What a document has under a name in a table. -/
def Config.statedIn? (document : Document) (group : SettingGroup) (key : String) : Option Value :=
  match document.lookup group.name with
  | some (.table entries) => entries.lookup key
  | _ => none

namespace Setting

def stated? (setting : Setting) (document : Document) : Option Value :=
  Config.statedIn? document setting.group setting.key

/-- The value that a document gives to a setting. -/
def valueIn (setting : Setting) (document : Document) : Value :=
  (setting.stated? document).getD setting.default

end Setting

namespace Config

variable {document other : Document} {group : SettingGroup} {value : Value} {config : Config}
  {setting : Setting} {find : String → Nat → Option Value}

/-- What stands where settings may be is a table. -/
def IsTableForm (document : Document) : Prop :=
  ∀ (group : SettingGroup) (value : Value), document.lookup group.name = some value →
    ∃ entries, value = .table entries

/-- Every setting that is stated has a value it can have. -/
def IsAdmitted (document : Document) : Prop :=
  ∀ (setting : Setting) (value : Value), setting.stated? document = some value →
    setting.Admits value

/-- What is to be read from a document: it is malformed if some setting is stated that cannot be so;
otherwise it is invalid if some setting is zero that must not be, and the first of these is named;
otherwise each setting has its value. -/
inductive Answers (document : Document) : Except ConfigError Config → Prop where
  | malformed (refused : ¬IsAdmitted document) : Answers document (.error .malformed)
  | invalid (setting : PositiveSetting) (before after : List PositiveSetting)
      (admitted : IsAdmitted document)
      (order : ExecutorConfig.checkedSettings = before ++ setting :: after)
      (zero : (Setting.positive setting).valueIn document = .integer 0)
      (first : ∀ earlier ∈ before, (Setting.positive earlier).valueIn document ≠ .integer 0) :
      Answers document (.error (.invalid (.zero setting)))
  | accepted (config : Config) (admitted : IsAdmitted document)
      (positive : ∀ setting, (Setting.positive setting).valueIn document ≠ .integer 0)
      (values : ∀ setting, setting.valueIn document = config.value setting) :
      Answers document (.ok config)

/-! ### Reading one setting -/

theorem integer_injective (word other : UInt64)
    (same : Value.integer word.toNat = .integer other.toNat) : word = other := by
  rw [Value.integer.injEq, Int.natCast_inj] at same
  exact UInt64.toNat_inj.mp same

/-- An integer that a document can state is a word if it is not negative. -/
theorem readWord?_eq_some_iff (inRange : value.InRange) (word : UInt64) :
    readWord? value = some word ↔ value = .integer word.toNat := by
  constructor
  · intro read
    cases inRange with
    | integer number least most =>
      rw [readWord?] at read
      split at read
      · rename_i natural
        cases read
        have small : number.toNat < 2 ^ 64 := by
          have bound : maxInteger = 9223372036854775807 := rfl
          omega
        rw [UInt64.toNat_ofNat', Nat.mod_eq_of_lt small, Int.toNat_of_nonneg natural]
      · contradiction
    | _ => contradiction
  · rintro rfl
    exact readWord?_integer word

theorem readText?_eq_some_iff (value : Value) (content : String) :
    readText? value = some content ↔ value = .text content := by
  cases value <;> simp [readText?]

/-- A setting that may be left out has the value that is stated or the default. -/
theorem settingOr_eq_some_iff {α : Type} {read : Value → Option α} {found : Option Value}
    (write : α → Value) (injective : ∀ one other, write one = write other → one = other)
    (reads : ∀ value, found = some value →
      ∀ result, read value = some result ↔ value = write result)
    (default result : α) :
    settingOr read default found = some result ↔ found.getD (write default) = write result := by
  cases found with
  | some value => exact reads value rfl result
  | none =>
    rw [settingOr, Option.some.injEq, Option.getD_none]
    exact ⟨congrArg write, injective _ _⟩

/-! ### Reading all settings -/

/-- What is stated is as far in range as the document is. -/
theorem inRange_statedIn? {key : String} (inRange : ∀ entry ∈ document, entry.2.InRange)
    (found : statedIn? document group key = some value) : value.InRange := by
  have within : ∀ {entries : List (String × Value)} {name : String} {value : Value},
      (∀ entry ∈ entries, entry.2.InRange) → entries.lookup name = some value →
        value.InRange := by
    intro entries name value all found
    obtain ⟨before, after, rfl, -⟩ := List.lookup_eq_some_iff.mp found
    exact all (name, value) (by simp)
  unfold statedIn? at found
  split at found
  · rename_i entries there
    cases within inRange there with
    | table _ all => exact within all found
  · contradiction

/-- Settings in a table are looked up there, and without the table there are none. -/
theorem readGroup?_of_table {α : Type} (gather : (String → Nat → Option Value) → Option α)
    {default : α} (empty : gather (fun _ _ => none) = some default) (tables : IsTableForm document)
    (group : SettingGroup) :
    settingOr (readGroup? gather) default (document.lookup group.name) =
      gather fun key _ => statedIn? document group key := by
  unfold statedIn?
  cases found : document.lookup group.name with
  | none => exact empty.symm
  | some value =>
    obtain ⟨entries, rfl⟩ := tables group value found
    rfl

theorem gatherExecutor_eq_some_iff {executor : ExecutorConfig} :
    ExecutorConfig.gather? find = some executor ↔
      settingOr readWord? ({} : ExecutorConfig).writeBufferLimitBytes
        (find "write_buffer_limit_bytes" 0) = some executor.writeBufferLimitBytes ∧
      settingOr readWord? ({} : ExecutorConfig).sampleWarmup (find "sample_warmup" 1) =
        some executor.sampleWarmup ∧
      settingOr readWord? ({} : ExecutorConfig).sampleRate (find "sample_rate" 2) =
        some executor.sampleRate ∧
      settingOr readWord? ({} : ExecutorConfig).maxCachedRecords (find "max_cached_records" 3) =
        some executor.maxCachedRecords ∧
      settingOr readText? ({} : ExecutorConfig).threadNamePrefix (find "thread_name_prefix" 4) =
        some executor.threadNamePrefix := by
  simp only [ExecutorConfig.gather?, Option.bind_eq_bind, Option.bind_eq_some_iff,
    Option.pure_def, Option.some.injEq]
  constructor
  · rintro ⟨_, limit, _, warmup, _, rate, _, records, _, names, rfl⟩
    exact ⟨limit, warmup, rate, records, names⟩
  · rintro ⟨limit, warmup, rate, records, names⟩
    exact ⟨_, limit, _, warmup, _, rate, _, records, _, names, rfl⟩

theorem gatherObservability_eq_some_iff {observability : ObservabilityConfig} :
    ObservabilityConfig.gather? find = some observability ↔
      settingOr readText? ({} : ObservabilityConfig).logFilter (find "log_filter" 0) =
        some observability.logFilter ∧
      settingOr readText? ({} : ObservabilityConfig).metricsAddr (find "metrics_addr" 1) =
        some observability.metricsAddr := by
  simp only [ObservabilityConfig.gather?, Option.bind_eq_bind, Option.bind_eq_some_iff,
    Option.pure_def, Option.some.injEq]
  constructor
  · rintro ⟨_, filter, _, address, rfl⟩
    exact ⟨filter, address⟩
  · rintro ⟨filter, address⟩
    exact ⟨_, filter, _, address, rfl⟩

/-- The settings that are read are the ones whose values the document gives. -/
theorem ofDocument?_eq_some_iff (inRange : ∀ entry ∈ document, entry.2.InRange)
    (tables : IsTableForm document) :
    ofDocument? document = some config ↔
      ∀ setting : Setting, setting.valueIn document = config.value setting := by
  have word : ∀ (key : String) (default result : UInt64),
      settingOr readWord? default (statedIn? document .executor key) = some result ↔
        (statedIn? document .executor key).getD (.integer default.toNat) =
          .integer result.toNat :=
    fun key => settingOr_eq_some_iff (fun word : UInt64 => .integer word.toNat) integer_injective
      fun value found => readWord?_eq_some_iff (inRange_statedIn? inRange found)
  have text : ∀ (group : SettingGroup) (key : String) (default result : String),
      settingOr readText? default (statedIn? document group key) = some result ↔
        (statedIn? document group key).getD (.text default) = .text result :=
    fun group key => settingOr_eq_some_iff Value.text (fun _ _ => Value.text.inj)
      fun value _ => readText?_eq_some_iff value
  have executor : settingOr (readGroup? ExecutorConfig.gather?) {} (document.lookup "executor") =
      ExecutorConfig.gather? fun key _ => statedIn? document .executor key :=
    readGroup?_of_table ExecutorConfig.gather? rfl tables .executor
  have observability :
      settingOr (readGroup? ObservabilityConfig.gather?) {} (document.lookup "observability") =
        ObservabilityConfig.gather? fun key _ => statedIn? document .observability key :=
    readGroup?_of_table ObservabilityConfig.gather? rfl tables .observability
  rw [ofDocument?, executor, observability]
  constructor
  · intro read setting
    obtain ⟨_, first, read⟩ := Option.bind_eq_some_iff.mp read
    obtain ⟨_, second, done⟩ := Option.bind_eq_some_iff.mp read
    cases done
    obtain ⟨limit, warmup, rate, records, names⟩ := gatherExecutor_eq_some_iff.mp first
    obtain ⟨filter, address⟩ := gatherObservability_eq_some_iff.mp second
    cases setting with
    | positive setting =>
      cases setting with
      | writeBufferLimitBytes => exact (word _ _ _).mp limit
      | sampleRate => exact (word _ _ _).mp rate
      | maxCachedRecords => exact (word _ _ _).mp records
    | sampleWarmup => exact (word _ _ _).mp warmup
    | threadNamePrefix => exact (text _ _ _ _).mp names
    | logFilter => exact (text _ _ _ _).mp filter
    | metricsAddr => exact (text _ _ _ _).mp address
  · intro values
    have first : ExecutorConfig.gather? (fun key _ => statedIn? document .executor key) =
        some config.executor := gatherExecutor_eq_some_iff.mpr
      ⟨(word _ _ _).mpr (values (.positive .writeBufferLimitBytes)),
        (word _ _ _).mpr (values .sampleWarmup),
        (word _ _ _).mpr (values (.positive .sampleRate)),
        (word _ _ _).mpr (values (.positive .maxCachedRecords)),
        (text _ _ _ _).mpr (values .threadNamePrefix)⟩
    have second : ObservabilityConfig.gather? (fun key _ => statedIn? document .observability key) =
        some config.observability := gatherObservability_eq_some_iff.mpr
      ⟨(text _ _ _ _).mpr (values .logFilter), (text _ _ _ _).mpr (values .metricsAddr)⟩
    rw [first, second]
    rfl

theorem admits_value (config : Config) (setting : Setting) :
    setting.Admits (config.value setting) := by
  cases setting <;> exact ⟨_, rfl⟩

/-- Values that all settings can have are those of some settings. -/
theorem exists_of_admitted {given : Setting → Value}
    (admitted : ∀ setting : Setting, setting.Admits (given setting)) :
    ∃ config : Config, ∀ setting, given setting = config.value setting := by
  obtain ⟨writeBufferLimitBytes, limit⟩ := admitted (.positive .writeBufferLimitBytes)
  obtain ⟨sampleWarmup, warmup⟩ := admitted .sampleWarmup
  obtain ⟨sampleRate, rate⟩ := admitted (.positive .sampleRate)
  obtain ⟨maxCachedRecords, records⟩ := admitted (.positive .maxCachedRecords)
  obtain ⟨threadNamePrefix, names⟩ := admitted .threadNamePrefix
  obtain ⟨logFilter, filter⟩ := admitted .logFilter
  obtain ⟨metricsAddr, address⟩ := admitted .metricsAddr
  refine ⟨{
    executor := {
      writeBufferLimitBytes, sampleWarmup, sampleRate, maxCachedRecords, threadNamePrefix }
    observability := { logFilter, metricsAddr } }, fun setting => ?_⟩
  cases setting with
  | positive setting =>
    cases setting with
    | writeBufferLimitBytes => exact limit
    | sampleRate => exact rate
    | maxCachedRecords => exact records
  | sampleWarmup => exact warmup
  | threadNamePrefix => exact names
  | logFilter => exact filter
  | metricsAddr => exact address

/-- Defaults can be had. -/
theorem isAdmitted_iff (document : Document) :
    IsAdmitted document ↔ ∀ setting : Setting, setting.Admits (setting.valueIn document) := by
  constructor
  · intro admitted setting
    rw [Setting.valueIn]
    cases stated : setting.stated? document with
    | none => exact admits_value {} setting
    | some value => exact admitted setting value stated
  · intro admitted setting value stated
    have admits := admitted setting
    rwa [Setting.valueIn, stated, Option.getD_some] at admits

/-! ### The answer -/

theorem zero_iff {values : Setting → Value}
    (same : ∀ setting, values setting = config.value setting) (setting : PositiveSetting) :
    values (.positive setting) = .integer 0 ↔ config.executor.positive setting = 0 := by
  rw [same, value, Value.integer.injEq]
  constructor
  · intro zero
    exact UInt64.toNat_inj.mp (Int.natCast_inj.mp zero)
  · intro zero
    rw [zero]
    rfl

/-- The answer to a document is what is to be read from it. -/
theorem answers_fromDocument (inRange : ∀ entry ∈ document, entry.2.InRange)
    (tables : IsTableForm document) : Answers document (fromDocument document) := by
  rw [fromDocument]
  cases read : ofDocument? document with
  | none =>
    refine .malformed fun admitted => ?_
    obtain ⟨config, values⟩ := exists_of_admitted ((isAdmitted_iff document).mp admitted)
    rw [(ofDocument?_eq_some_iff inRange tables).mpr values] at read
    contradiction
  | some config =>
    have values := (ofDocument?_eq_some_iff inRange tables).mp read
    have admitted : IsAdmitted document :=
      (isAdmitted_iff document).mpr fun setting => by
        rw [values]
        exact admits_value config setting
    dsimp only
    rw [ExecutorConfig.validate]
    split
    · rename_i setting found
      obtain ⟨zero, before, after, order, first⟩ := List.find?_eq_some_iff_append.mp found
      refine .invalid setting before after admitted order ?_ fun earlier present => ?_
      · exact (zero_iff values setting).mpr (of_decide_eq_true zero)
      · rw [Ne, zero_iff values earlier]
        exact of_decide_eq_false (Bool.not_eq_true' _ ▸ first earlier present)
    · rename_i none
      refine .accepted config admitted (fun setting => ?_) values
      rw [Ne, zero_iff values setting]
      have inside : setting ∈ ExecutorConfig.checkedSettings := by cases setting <;> decide
      exact fun zero => List.find?_eq_none.mp none setting inside (decide_eq_true zero)

theorem fromDocument_of_answers {answer : Except ConfigError Config}
    (inRange : ∀ entry ∈ document, entry.2.InRange) (tables : IsTableForm document)
    (answers : Answers document answer) : fromDocument document = answer := by
  have read : ∀ config : Config,
      (∀ setting : Setting, setting.valueIn document = config.value setting) →
      fromDocument document = config.executor.validate.map fun _ => config := by
    intro config values
    rw [fromDocument, (ofDocument?_eq_some_iff inRange tables).mpr values]
  cases answers with
  | malformed refused =>
    have none : ofDocument? document = none := by
      rw [Option.eq_none_iff_forall_ne_some]
      intro config read
      refine refused ((isAdmitted_iff document).mpr fun setting => ?_)
      rw [(ofDocument?_eq_some_iff inRange tables).mp read]
      exact admits_value config setting
    rw [fromDocument, none]
  | invalid setting before after admitted order zero first =>
    obtain ⟨config, values⟩ := exists_of_admitted ((isAdmitted_iff document).mp admitted)
    have found : ExecutorConfig.checkedSettings.find? (config.executor.positive · = 0) =
        some setting := by
      refine List.find?_eq_some_iff_append.mpr ⟨?_, before, after, order, fun earlier present => ?_⟩
      · exact decide_eq_true ((zero_iff values setting).mp zero)
      · rw [Bool.not_eq_true', decide_eq_false_iff_not, ← zero_iff values earlier]
        exact first earlier present
    rw [read config values, ExecutorConfig.validate, found]
    rfl
  | accepted config admitted positive values =>
    have valid := validate_of_positive fun setting =>
      mt (zero_iff values setting).mpr (positive setting)
    rw [read config values, valid]
    rfl

/-- What is read from a text is what is to be read from its document, and nothing else. -/
theorem fromToml_eq_iff {text : String} {answer : Except ConfigError Config}
    (parsed : parse? text = some document) (tables : IsTableForm document) :
    fromToml text = answer ↔ Answers document answer := by
  have inRange := inRange_parse? parsed
  have same : fromToml text = fromDocument document := by rw [fromToml, parsed]
  rw [same]
  constructor
  · rintro rfl
    exact answers_fromDocument inRange tables
  · exact fromDocument_of_answers inRange tables

theorem accepted_iff {text : String} (parsed : parse? text = some document)
    (tables : IsTableForm document) :
    (∃ config, fromToml text = .ok config) ↔
      IsAdmitted document ∧
        ∀ setting, (Setting.positive setting).valueIn document ≠ .integer 0 := by
  constructor
  · rintro ⟨config, read⟩
    cases (fromToml_eq_iff parsed tables).mp read with
    | accepted _ admitted positive values => exact ⟨admitted, positive⟩
  · rintro ⟨admitted, positive⟩
    obtain ⟨config, values⟩ := exists_of_admitted ((isAdmitted_iff document).mp admitted)
    exact ⟨config, (fromToml_eq_iff parsed tables).mpr (.accepted config admitted positive values)⟩

/-- Two texts whose documents give all settings the same values have the same answer. -/
theorem fromToml_congr {text otherText : String} (parsed : parse? text = some document)
    (tables : IsTableForm document) (otherParsed : parse? otherText = some other)
    (otherTables : IsTableForm other)
    (same : ∀ setting : Setting, setting.valueIn other = setting.valueIn document) :
    fromToml otherText = fromToml text := by
  have read : ofDocument? other = ofDocument? document := by
    refine Option.ext fun config => ?_
    rw [ofDocument?_eq_some_iff (inRange_parse? otherParsed) otherTables,
      ofDocument?_eq_some_iff (inRange_parse? parsed) tables]
    simp only [same]
  rw [fromToml, fromToml, parsed, otherParsed]
  dsimp only
  rw [fromDocument, fromDocument, read]

/-! ### Changes that make no difference -/

/-- Names that are not known come and go, and different names change places. -/
inductive Shuffle (known : String → Prop) :
    List (String × Value) → List (String × Value) → Prop where
  | unknown (before after : List (String × Value)) (name : String) (value : Value)
      (foreign : ¬known name) : Shuffle known (before ++ after) (before ++ (name, value) :: after)
  | swap (before after : List (String × Value)) (first second : String × Value)
      (apart : first.1 ≠ second.1) :
      Shuffle known (before ++ first :: second :: after) (before ++ second :: first :: after)

/-- A change of a document that concerns other names than those of settings, or their order, or
writes out what holds by default. -/
inductive Edit : Document → Document → Prop where
  | outside {old new : Document}
      (shuffle : Shuffle (fun name => ∃ group : SettingGroup, group.name = name) old new) :
      Edit old new
  | inside (group : SettingGroup) (before after : Document) {old new : List (String × Value)}
      (shuffle : Shuffle (fun key => ∃ setting : Setting, setting.group = group ∧
        setting.key = key) old new) :
      Edit (before ++ (group.name, .table old) :: after)
        (before ++ (group.name, .table new) :: after)
  | setting (setting : Setting) (before after : Document) (first last : List (String × Value))
      (missing : (first ++ last).lookup setting.key = none) :
      Edit (before ++ (setting.group.name, .table (first ++ last)) :: after)
        (before ++
          (setting.group.name, .table (first ++ (setting.key, setting.default) :: last)) :: after)
  | table (group : SettingGroup) (before after : Document)
      (missing : (before ++ after).lookup group.name = none) :
      Edit (before ++ after) (before ++ (group.name, .table []) :: after)

/-- Nobody who looks for settings sees a difference. -/
structure Alike (document other : Document) : Prop where
  tables : IsTableForm document ↔ IsTableForm other
  values : ∀ setting : Setting, setting.valueIn document = setting.valueIn other

variable {known : String → Prop} {name : String} {old new before after : List (String × Value)}

theorem lookup_insert (before after : List (String × Value)) (name key : String) (value : Value) :
    (before ++ (name, value) :: after).lookup key =
      (before.lookup key).or (if key = name then some value else after.lookup key) := by
  rw [List.lookup_append, List.lookup_cons]
  by_cases same : key = name
  · simp [same]
  · simp [same, beq_eq_false_iff_ne.mpr same]

theorem lookup_of_shuffle (shuffle : Shuffle known old new) (mine : known name) :
    new.lookup name = old.lookup name := by
  cases shuffle with
  | unknown before after other value foreign =>
    have apart : name ≠ other := by
      rintro rfl
      exact foreign mine
    rw [lookup_insert, if_neg apart, List.lookup_append]
  | swap before after first second apart =>
    obtain ⟨one, value⟩ := first
    obtain ⟨other, otherValue⟩ := second
    rw [List.lookup_append, List.lookup_append]
    by_cases same : name = one
    · have differs : name ≠ other := same ▸ apart
      simp [List.lookup_cons, same, beq_eq_false_iff_ne.mpr (same ▸ differs)]
    · simp [List.lookup_cons, beq_eq_false_iff_ne.mpr same]

theorem name_injective {one other : SettingGroup} (same : one.name = other.name) :
    one = other := by
  cases one <;> cases other <;> first | rfl | exact absurd same (by decide)

theorem key_injective {one other : Setting} (same : one.key = other.key) : one = other := by
  rcases one with (_ | _ | _) | _ | _ | _ | _ <;> rcases other with (_ | _ | _) | _ | _ | _ | _ <;>
    first | rfl | exact absurd same (by decide)

/-- The entries of a table of settings; a table that is left out has none. -/
def entriesOf? (document : Document) (group : SettingGroup) : Option (List (String × Value)) :=
  match document.lookup group.name with
  | none => some []
  | some (.table entries) => some entries
  | some _ => none

theorem isTableForm_iff (document : Document) :
    IsTableForm document ↔ ∀ group, entriesOf? document group ≠ none := by
  refine forall_congr' fun group => ?_
  unfold entriesOf?
  cases document.lookup group.name with
  | none => simp
  | some value => cases value <;> simp

theorem statedIn?_eq (document : Document) (group : SettingGroup) (key : String) :
    statedIn? document group key = (entriesOf? document group).bind (·.lookup key) := by
  unfold statedIn? entriesOf?
  cases document.lookup group.name with
  | none => rfl
  | some value => cases value <;> rfl

/-- It is enough that the entries of each table give its settings the same values. -/
theorem alike_of_entries
    (same : ∀ group : SettingGroup, entriesOf? document group = entriesOf? other group ∨
      ∃ old new, entriesOf? document group = some old ∧ entriesOf? other group = some new ∧
        ∀ setting : Setting, setting.group = group →
          (old.lookup setting.key).getD setting.default =
            (new.lookup setting.key).getD setting.default) :
    Alike document other where
  tables := by
    rw [isTableForm_iff, isTableForm_iff]
    refine forall_congr' fun group => ?_
    rcases same group with same | ⟨old, new, was, now, -⟩
    · rw [same]
    · simp [was, now]
  values setting := by
    rw [Setting.valueIn, Setting.valueIn, Setting.stated?, Setting.stated?, statedIn?_eq,
      statedIn?_eq]
    rcases same setting.group with same | ⟨old, new, was, now, values⟩
    · rw [same]
    · rw [was, now]
      exact values setting rfl

theorem alike_of_lookup
    (same : ∀ group : SettingGroup, document.lookup group.name = other.lookup group.name) :
    Alike document other := by
  refine alike_of_entries fun group => .inl ?_
  rw [entriesOf?, entriesOf?, same]

/-- A table may change if all its settings keep their values. -/
theorem alike_of_table
    (same : ∀ setting : Setting, setting.group = group →
      (old.lookup setting.key).getD setting.default =
        (new.lookup setting.key).getD setting.default) :
    Alike (before ++ (group.name, .table old) :: after)
      (before ++ (group.name, .table new) :: after) := by
  refine alike_of_entries fun other => ?_
  unfold entriesOf?
  rw [lookup_insert, lookup_insert]
  -- A table of that name that comes first hides the one that changes.
  cases before.lookup other.name with
  | some value => exact .inl rfl
  | none =>
    by_cases here : other = group
    · subst here
      rw [if_pos rfl, if_pos rfl]
      exact .inr ⟨old, new, rfl, rfl, same⟩
    · have apart : other.name ≠ group.name := mt name_injective here
      rw [if_neg apart, if_neg apart]
      exact .inl rfl

/-- A table without settings may be left out. -/
theorem alike_of_empty (missing : (before ++ after).lookup group.name = none) :
    Alike (before ++ after) (before ++ (group.name, .table []) :: after) := by
  refine alike_of_entries fun other => .inl ?_
  unfold entriesOf?
  by_cases here : other = group
  · subst here
    rw [missing]
    rw [List.lookup_append, Option.or_eq_none_iff] at missing
    rw [lookup_insert, missing.1, if_pos rfl]
    rfl
  · rw [lookup_insert, if_neg (mt name_injective here), List.lookup_append]

theorem alike_of_edit (edit : Edit document other) : Alike document other := by
  cases edit with
  | outside shuffle =>
    exact alike_of_lookup fun group => (lookup_of_shuffle shuffle ⟨group, rfl⟩).symm
  | inside group before after shuffle =>
    refine alike_of_table fun setting mine => ?_
    rw [lookup_of_shuffle shuffle ⟨setting, mine, rfl⟩]
  | setting setting before after first last missing =>
    refine alike_of_table fun other _ => ?_
    rw [lookup_insert]
    by_cases same : other = setting
    · subst same
      rw [missing]
      rw [List.lookup_append, Option.or_eq_none_iff] at missing
      rw [missing.1, if_pos rfl]
      rfl
    · rw [if_neg (mt key_injective same), List.lookup_append]
  | table group before after missing => exact alike_of_empty missing

theorem alike_of_edits (edits : Relation.EqvGen Edit document other) : Alike document other := by
  induction edits with
  | rel _ _ edit => exact alike_of_edit edit
  | refl _ => exact ⟨Iff.rfl, fun _ => rfl⟩
  | symm _ _ _ ih => exact ⟨ih.tables.symm, fun setting => (ih.values setting).symm⟩
  | trans _ _ _ _ _ first second =>
    exact ⟨first.tables.trans second.tables,
      fun setting => (first.values setting).trans (second.values setting)⟩

/-- What is read from a text in which the settings stand in tables.  The answer is malformed exactly
if some setting is stated that cannot have its value, and otherwise it is invalid exactly if some
setting is zero that must not be, the first of which it names; in all other cases it gives each
setting the value that is stated, or its default.  So it is the same for all texts that give the
settings the same values, and it does not change when other names come and go, when anything changes
places, or when a setting or a table of settings is written out with its defaults. -/
theorem reads_settings_alone {text : String} {document : Document}
    (parsed : parse? text = some document) (tables : IsTableForm document) :
    (∀ answer, fromToml text = answer ↔ Answers document answer) ∧
    ((∃ config, fromToml text = .ok config) ↔
      IsAdmitted document ∧
        ∀ setting, (Setting.positive setting).valueIn document ≠ .integer 0) ∧
    (∀ otherText other, parse? otherText = some other → IsTableForm other →
      (∀ setting : Setting, setting.valueIn other = setting.valueIn document) →
      fromToml otherText = fromToml text) ∧
    ∀ otherText other, parse? otherText = some other →
      Relation.EqvGen Edit document other → fromToml otherText = fromToml text := by
  refine ⟨fun answer => fromToml_eq_iff parsed tables, accepted_iff parsed tables, ?_, ?_⟩
  · intro otherText other otherParsed otherTables same
    exact fromToml_congr parsed tables otherParsed otherTables same
  · intro otherText other otherParsed edits
    have alike := alike_of_edits edits
    exact fromToml_congr parsed tables otherParsed (alike.tables.mp tables)
      fun setting => (alike.values setting).symm

/-- One setting among other names. -/
def mixed : List Section :=
  [{ name := "notes", pairs := [("author", .text "nobody")] },
    { name := "executor", pairs := [("note", .integer 1), ("sample_rate", .integer 5)] }]

/-- The same setting, and a table without any. -/
def plain : List Section :=
  [{ name := "executor", pairs := [("sample_rate", .integer 5)] },
    { name := "observability", pairs := [] }]

theorem edits_mixed_plain :
    Relation.EqvGen Edit (mixed.map Section.value) (plain.map Section.value) := by
  have first : Edit [("executor", .table [("note", .integer 1), ("sample_rate", .integer 5)])]
      (mixed.map Section.value) := by
    refine .outside (.unknown [] _ "notes" _ ?_)
    rintro ⟨_ | _, same⟩ <;> exact absurd same (by decide)
  have second : Edit [("executor", .table [("sample_rate", .integer 5)])]
      [("executor", .table [("note", .integer 1), ("sample_rate", .integer 5)])] := by
    refine .inside .executor [] [] (.unknown [] _ "note" _ ?_)
    rintro ⟨(_ | _ | _) | _ | _ | _ | _, -, same⟩ <;> exact absurd same (by decide)
  have third : Edit [("executor", .table [("sample_rate", .integer 5)])]
      (plain.map Section.value) := by
    refine .table .observability [("executor", .table [("sample_rate", .integer 5)])] [] ?_
    simp [SettingGroup.name, List.lookup_cons]
  exact .trans _ _ _ (.symm _ _ (.rel _ _ first))
    (.trans _ _ _ (.symm _ _ (.rel _ _ second)) (.rel _ _ third))

theorem reads_settings_alone_inhabited :
    parse? (printDocument mixed) = some (mixed.map Section.value) ∧
      IsTableForm (mixed.map Section.value) ∧
      fromToml (printDocument mixed) = .ok { executor := { sampleRate := 5 } } ∧
      fromToml (printDocument plain) = fromToml (printDocument mixed) := by
  have parsed : parse? (printDocument mixed) = some (mixed.map Section.value) :=
    parse?_printDocument (by decide) (by decide)
  have plainParsed : parse? (printDocument plain) = some (plain.map Section.value) :=
    parse?_printDocument (by decide) (by decide)
  have tables : IsTableForm (mixed.map Section.value) := by
    intro group value found
    cases group with
    | executor =>
      refine ⟨[("note", .integer 1), ("sample_rate", .integer 5)], ?_⟩
      simpa [mixed, Section.value, Scalar.value, SettingGroup.name, List.lookup_cons, eq_comm]
        using found
    | observability => simp [mixed, Section.value, SettingGroup.name, List.lookup_cons] at found
  have settings : ofDocument? (mixed.map Section.value) =
      some { executor := { sampleRate := 5 } } := by
    simp [ofDocument?, mixed, Section.value, Scalar.value, List.lookup_cons, settingOr,
      readGroup?, ExecutorConfig.gather?, readWord?]
  have read : fromToml (printDocument mixed) = .ok { executor := { sampleRate := 5 } } := by
    rw [fromToml, parsed]
    dsimp only
    rw [fromDocument, settings]
    rfl
  have edited := (reads_settings_alone parsed tables).2.2.2
  exact ⟨parsed, tables, read, edited _ _ plainParsed edits_mixed_plain⟩

end Config

end BoundedIngest
