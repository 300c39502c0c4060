/-
Module: BoundedIngest.Proofs.Executor.Naming
Purpose: Which prefixes give names that threads can have.
Main exports:
  ExecutorConfig.HasNul, threadNamePanic?_eq_none, Executor.named_iff
-/
import BoundedIngest.Executor.State

namespace BoundedIngest

/-- The prefix holds the character that ends a thread's name. -/
def ExecutorConfig.HasNul (config : ExecutorConfig) : Prop :=
  Char.ofNat 0 ∈ config.threadNamePrefix.toList

instance (config : ExecutorConfig) : Decidable config.HasNul :=
  inferInstanceAs (Decidable (_ ∈ _))

/-! ### The bytes of a name -/

theorem toList_loop (bytes : ByteArray) (index : Nat) (seen : List UInt8) :
    ByteArray.toList.loop bytes index seen =
      seen.reverse ++ bytes.data.toList.drop index := by
  fun_induction ByteArray.toList.loop bytes index seen with
  | case1 index seen inside ih =>
    have here : index < bytes.data.toList.length := inside
    have byte : bytes.get! index = bytes.data.toList[index] := by
      have read : bytes.get! index = bytes.data[index]! := by
        cases bytes
        rfl
      rw [read, getElem!_pos bytes.data index inside]
      rfl
    rw [ih, List.reverse_cons, List.append_assoc, byte, List.singleton_append,
      ← List.drop_eq_getElem_cons here]
  | case2 index seen outside =>
    have past : bytes.data.toList.length ≤ index := Nat.le_of_not_lt outside
    rw [List.drop_eq_nil_of_le past, List.append_nil]

theorem toList_bytes (bytes : ByteArray) : bytes.toList = bytes.data.toList :=
  toList_loop bytes 0 []

theorem bytes_of_name (name : String) :
    name.toUTF8.toList = name.toList.flatMap String.utf8EncodeChar := by
  rw [toList_bytes, String.toUTF8, ← String.utf8Encode_toList, List.utf8Encode,
    List.data_toByteArray]

/-- A byte that is zero stands for that character alone. -/
theorem zero_mem_utf8EncodeChar (char : Char) :
    0 ∈ String.utf8EncodeChar char ↔ char = Char.ofNat 0 := by
  have value : char = Char.ofNat 0 ↔ char.val.toNat = 0 := by
    rw [← Char.toNat_inj]
    exact Iff.rfl
  have byte : ∀ number : Nat, (0 : UInt8) = UInt8.ofNat number ↔ number % 256 = 0 := by
    intro number
    rw [← UInt8.toNat_inj, UInt8.toNat_ofNat, eq_comm]
    rfl
  rw [value]
  unfold String.utf8EncodeChar
  dsimp only
  split
  · rw [List.mem_singleton, byte]
    omega
  · split
    · simp only [List.mem_cons, List.not_mem_nil, or_false, byte]
      omega
    · split
      · simp only [List.mem_cons, List.not_mem_nil, or_false, byte]
        omega
      · simp only [List.mem_cons, List.not_mem_nil, or_false, byte]
        omega

theorem threadNamePanic?_eq_none {name : String} :
    threadNamePanic? name = none ↔ Char.ofNat 0 ∉ name.toList := by
  unfold threadNamePanic?
  dsimp only
  rw [Option.map_eq_none_iff, List.findIdx?_eq_none_iff, bytes_of_name]
  constructor
  · intro none found
    have zero := none 0 (List.mem_flatMap.mpr ⟨_, found, (zero_mem_utf8EncodeChar _).mpr rfl⟩)
    simp at zero
  · intro absent byte found
    obtain ⟨char, here, encoded⟩ := List.mem_flatMap.mp found
    rw [decide_eq_false_iff_not]
    rintro rfl
    rw [(zero_mem_utf8EncodeChar char).mp encoded] at here
    exact absent here

variable {ρ α β : Type}

/-- All workers can be given names, or none can. -/
theorem Executor.named_iff {executor : Executor ρ α β} (worker : Nat) :
    threadNamePanic? (executor.workerName worker) = none ↔ ¬ executor.config.HasNul := by
  have suffix : Char.ofNat 0 ∉ (if worker < executor.consumerIndex then
      "-producer-" ++ toString worker else "-consumer").toList := by
    split
    · rw [String.toList_append]
      intro found
      rcases List.mem_append.mp found with found | found
      · revert found
        decide
      · have digits : (toString worker).toList = Nat.toDigits 10 worker := Nat.toList_repr
        rw [digits] at found
        have digit := Nat.isDigit_of_mem_toDigits (by decide) (by decide) found
        revert digit
        decide
    · decide
  rw [threadNamePanic?_eq_none, workerName, String.toList_append, List.mem_append,
    ExecutorConfig.HasNul]
  constructor
  · exact fun absent found => absent (.inl found)
  · rintro absent (found | found)
    · exact absent found
    · exact suffix found

end BoundedIngest
