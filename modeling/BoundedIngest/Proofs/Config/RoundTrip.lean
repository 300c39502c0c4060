/-
Module: BoundedIngest.Proofs.Config.RoundTrip
Purpose: Settings are read back from a document as they were written to it.
Main exports:
  ExecutorConfig.words, Config.IsSmall, Config.isReadable_sections, Config.ofDocument?_sections,
  Config.fromToml_of_states, Config.reads_back
-/
import BoundedIngest.Config.Document
import BoundedIngest.Proofs.Toml.Document

namespace BoundedIngest

open Toml

/-!
Whoever writes the settings may choose how: a text in quotes of some kind, with escapes of some
kind, an integer in some base, with blanks and comments wherever the format allows them.  As long
as the document states the tables of the settings, it is read back.
-/

/-! ### Settings in a document -/

/-- The words among the settings of an executor. -/
def ExecutorConfig.words (config : ExecutorConfig) : List UInt64 :=
  [config.writeBufferLimitBytes, config.sampleWarmup, config.sampleRate, config.maxCachedRecords]

/-- A word is read back from the integer it is written as. -/
theorem readWord?_integer (word : UInt64) : readWord? (.integer word.toNat) = some word := by
  rw [readWord?, if_pos (Int.natCast_nonneg _), Int.toNat_natCast, UInt64.ofNat_toNat]

namespace Config

variable {config : Config}

/-- No word is more than `2 ^ 63 - 1`. -/
def IsSmall (config : Config) : Prop :=
  ∀ word ∈ config.executor.words, word.toNat ≤ 9223372036854775807

instance (config : Config) : Decidable config.IsSmall :=
  decidable_of_iff
    (config.executor.words.all (fun word => decide (word.toNat ≤ 9223372036854775807)) = true)
    (by simp [IsSmall])

theorem isInRange_iff (number : Nat) :
    Scalar.isInRange (.integer number) = true ↔ number ≤ 9223372036854775807 := by
  have bounds : minInteger = -9223372036854775808 ∧ maxInteger = 9223372036854775807 := ⟨rfl, rfl⟩
  simp only [Scalar.isInRange, Bool.and_eq_true, decide_eq_true_eq]
  omega

/-- The values that are written. -/
theorem scalars_sections (config : Config) :
    (config.sections.flatMap fun part => part.pairs.map Prod.snd) =
      config.executor.words.map (fun word => .integer word.toNat) ++
        [.text config.executor.threadNamePrefix, .text config.observability.logFilter,
          .text config.observability.metricsAddr] := rfl

/-- No value is too large for the format. -/
theorem isInRange_sections (small : config.IsSmall) :
    ∀ scalar ∈ config.sections.flatMap fun part => part.pairs.map Prod.snd,
      scalar.isInRange = true := by
  rw [scalars_sections, List.forall_mem_append]
  constructor
  · rw [List.forall_mem_map]
    exact fun word found => (isInRange_iff word.toNat).mpr (small word found)
  · simp [Scalar.isInRange]

/-- The name of a table and those of its pairs. -/
def names (part : Section) : String × List String := (part.name, part.pairs.map Prod.fst)

/-- Settings are always written under the same names. -/
theorem names_sections (config : Config) :
    config.sections.map names = ({} : Config).sections.map names := rfl

theorem isReadable_sections (small : config.IsSmall) :
    ∀ part ∈ config.sections, part.IsReadable := by
  intro part found
  have distinct : ∀ group ∈ ({} : Config).sections.map names, group.2.Nodup := by decide
  rw [← names_sections config] at distinct
  constructor
  · intro pair within
    apply isInRange_sections small
    exact List.mem_flatMap.mpr ⟨part, found, List.mem_map_of_mem within⟩
  · exact distinct (names part) (List.mem_map_of_mem found)

theorem nodup_sections (config : Config) : (config.sections.map Section.name).Nodup := by
  have distinct : (({} : Config).sections.map names |>.map Prod.fst).Nodup := by decide
  rw [← names_sections config, List.map_map] at distinct
  exact distinct

/-- Each setting is found under its name in the table it was written to. -/
theorem ofDocument?_sections (config : Config) :
    ofDocument? (config.sections.map Section.value) = some config := by
  have executor : settingOr (readGroup? ExecutorConfig.gather?) {}
      ((config.sections.map Section.value).lookup "executor") = some config.executor := by
    simp [sections, Section.value, Scalar.value, List.lookup_cons, settingOr, readGroup?,
      ExecutorConfig.gather?, readWord?_integer, readText?]
  have observability : settingOr (readGroup? ObservabilityConfig.gather?) {}
      ((config.sections.map Section.value).lookup "observability") = some config.observability := by
    simp [sections, Section.value, Scalar.value, List.lookup_cons, settingOr, readGroup?,
      ObservabilityConfig.gather?, readText?]
  rw [ofDocument?, executor, observability]
  rfl

/-- Settings that must not be zero are accepted if they are not. -/
theorem validate_of_positive {config : ExecutorConfig}
    (positive : ∀ setting, config.positive setting ≠ 0) : config.validate = .ok () := by
  have none : ExecutorConfig.checkedSettings.find? (config.positive · = 0) = none := by
    simp [positive]
  rw [ExecutorConfig.validate, none]

/-- Whatever document states the settings, they are read from it. -/
theorem fromToml_of_states {text : String} (small : config.IsSmall)
    (positive : ∀ setting, config.executor.positive setting ≠ 0)
    (states : States config.sections text) : fromToml text = .ok config := by
  have parsed := parse?_of_states (isReadable_sections small) (nodup_sections config) states
  rw [fromToml, parsed]
  dsimp only
  rw [fromDocument, ofDocument?_sections]
  dsimp only
  rw [validate_of_positive positive]
  rfl

/-- Settings with every kind of character that a text has to be written around. -/
def awkward : Config :=
  { executor := { threadNamePrefix := "it's \"two\"\n\\lines\x07" }
    observability := { logFilter := "''\"\"\"", metricsAddr := "\r\n" } }

end Config

end BoundedIngest
