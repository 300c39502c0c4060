/-
Module: BoundedIngest.Proofs.Lists
Purpose: What replacing one element of a list changes, or appending one.
Main exports:
  set_eq_self, map_set_same, countP_cons_toNat, countP_set_add, countP_set_same, countP_set_gain,
  countP_le_set, sum_map_set_add, set_or_before, before_of_set, last_or_before,
  two_le_countP, reduceOption_set_some, reduceOption_set_none
-/
import Mathlib.Algebra.GroupWithZero.Nat
import Mathlib.Algebra.Order.BigOperators.Group.List
import Mathlib.Algebra.Order.Ring.Nat
import Mathlib.Data.List.ReduceOption

namespace BoundedIngest

variable {α β : Type} {values : List α} {index : Nat} {old new : α}

/-- Setting a list at a position to what it holds there changes nothing. -/
theorem set_eq_self (found : values[index]? = some old) : values.set index old = values := by
  obtain ⟨inside, rfl⟩ := List.getElem?_eq_some_iff.mp found
  exact List.set_getElem_self inside

/-- A field in which the old and the new element agree. -/
theorem map_set_same {field : α → β} (was : values[index]? = some old)
    (same : field new = field old) : (values.set index new).map field = values.map field := by
  rw [List.map_set, same]
  exact set_eq_self (by simp [was])

theorem countP_cons_toNat (test : α → Bool) (value : α) (rest : List α) :
    (value :: rest).countP test = (test value).toNat + rest.countP test := by
  rw [List.countP_cons, Nat.add_comm]
  cases test value <;> rfl

/-- The elements that pass a test, before and after one is replaced. -/
theorem countP_set_add (test : α → Bool) (new : α) (was : values[index]? = some old) :
    (values.set index new).countP test + (test old).toNat =
      values.countP test + (test new).toNat := by
  induction values generalizing index with
  | nil => simp at was
  | cons value rest ih =>
    cases index with
    | zero =>
      cases was
      rw [List.set_cons_zero, List.countP_cons, List.countP_cons]
      cases test old <;> cases test new <;> simp +arith
    | succ index =>
      have counted := ih was
      rw [List.set_cons_succ, List.countP_cons, List.countP_cons]
      omega

theorem countP_set_same (test : α → Bool) (new : α) (was : values[index]? = some old)
    (same : test new = test old) :
    (values.set index new).countP test = values.countP test := by
  have counted := countP_set_add test new was
  rw [same] at counted
  omega

theorem countP_set_gain (test : α → Bool) (new : α) (was : values[index]? = some old)
    (before : test old = false) (after : test new = true) :
    (values.set index new).countP test = values.countP test + 1 := by
  have counted := countP_set_add test new was
  rw [before, after, Bool.toNat_false, Bool.toNat_true] at counted
  omega

/-- At most the replaced element is lost. -/
theorem countP_le_set (test : α → Bool) (new : α) (was : values[index]? = some old) :
    values.countP test ≤ (values.set index new).countP test + 1 := by
  have counted := countP_set_add test new was
  have least : (test old).toNat ≤ 1 := Bool.toNat_le _
  omega

/-- A sum over the elements, before and after one is replaced. -/
theorem sum_map_set_add (weight : α → Nat) (new : α) (was : values[index]? = some old) :
    ((values.set index new).map weight).sum + weight old =
      (values.map weight).sum + weight new := by
  induction values generalizing index with
  | nil => simp at was
  | cons value rest ih =>
    cases index with
    | zero =>
      cases was
      simp +arith
    | succ index =>
      have summed := ih was
      rw [List.set_cons_succ, List.map_cons, List.map_cons, List.sum_cons, List.sum_cons]
      omega

/-- A change of every element that adds at most one to its weight. -/
theorem sum_map_le_add_length (weight : α → Nat) (change : α → α) (values : List α)
    (least : ∀ value, weight (change value) ≤ weight value + 1) :
    ((values.map change).map weight).sum ≤ (values.map weight).sum + values.length := by
  induction values with
  | nil => exact Nat.le_refl 0
  | cons value rest ih =>
    have here := least value
    simp only [List.map_cons, List.sum_cons, List.length_cons]
    omega

/-- What a list holds after one element was set is that element, or it was there before. -/
theorem set_or_before {place : Nat} {value : α}
    (found : (values.set index new)[place]? = some value) :
    (place = index ∧ value = new) ∨ values[place]? = some value := by
  rw [List.getElem?_set] at found
  split at found
  · rename_i same
    split at found
    · exact .inl ⟨same.symm, (Option.some.inj found).symm⟩
    · contradiction
  · exact .inr found

theorem before_of_set {place : Nat} {value : α} (other : new ≠ value)
    (found : (values.set index new)[place]? = some value) : values[place]? = some value := by
  rcases set_or_before found with ⟨-, rfl⟩ | before
  · contradiction
  · exact before

/-- What a list holds after one element was appended is that element, or it was there before. -/
theorem last_or_before {place : Nat} {value : α} (found : (values ++ [new])[place]? = some value) :
    (values.length ≤ place ∧ value = new) ∨ values[place]? = some value := by
  rcases Nat.lt_or_ge place values.length with inside | outside
  · rw [List.getElem?_append_left inside] at found
    exact .inr found
  · rw [List.getElem?_append_right outside] at found
    exact .inl ⟨outside, List.mem_singleton.mp (List.mem_of_getElem? found)⟩

/-- An element that is not the one replaced. -/
theorem mem_set_of_ne {value : α} (found : value ∈ values) (was : values[index]? = some old)
    (other : old ≠ value) : value ∈ values.set index new := by
  obtain ⟨position, here⟩ := List.mem_iff_getElem?.mp found
  have apart : index ≠ position := by
    rintro rfl
    rw [was] at here
    exact other (Option.some.inj here)
  exact List.mem_of_getElem? ((List.getElem?_set_ne apart).trans here)

/-- Two positions of a list that pass a test count twice. -/
theorem two_le_countP {test : α → Bool} {first second : Nat} {one other : α}
    (different : first ≠ second) (atFirst : values[first]? = some one)
    (onePasses : test one = true) (atSecond : values[second]? = some other)
    (otherPasses : test other = true) : 2 ≤ values.countP test := by
  induction values generalizing first second with
  | nil => simp at atFirst
  | cons value rest ih =>
    rw [List.countP_cons]
    cases first with
    | zero =>
      cases second with
      | zero => contradiction
      | succ second =>
        cases atFirst
        have found : other ∈ rest := List.mem_of_getElem? atSecond
        have counted : 0 < rest.countP test := List.countP_pos_iff.mpr ⟨_, found, otherPasses⟩
        rw [if_pos onePasses]
        omega
    | succ first =>
      cases second with
      | zero =>
        cases atSecond
        have found : one ∈ rest := List.mem_of_getElem? atFirst
        have counted : 0 < rest.countP test := List.countP_pos_iff.mpr ⟨_, found, onePasses⟩
        rw [if_pos otherPasses]
        omega
      | succ second =>
        have counted := ih (by omega) atFirst atSecond
        omega

/-- A list without values has one after one of its places was filled. -/
theorem reduceOption_set_some {values : List (Option α)} {value : α}
    (was : values[index]? = some none) (empty : values.reduceOption = []) :
    (values.set index (some value)).reduceOption = [value] := by
  induction values generalizing index with
  | nil => simp at was
  | cons first rest ih =>
    cases first with
    | some other => simp at empty
    | none =>
      rw [List.reduceOption_cons_of_none] at empty
      cases index with
      | zero => rw [List.set_cons_zero, List.reduceOption_cons_of_some, empty]
      | succ index =>
        rw [List.set_cons_succ, List.reduceOption_cons_of_none]
        exact ih was empty

/-- A list with one value at most has none after it was taken away. -/
theorem reduceOption_set_none {values : List (Option α)} {value : α}
    (was : values[index]? = some (some value)) (few : (values.reduceOption).length ≤ 1) :
    values.reduceOption = [value] ∧ (values.set index none).reduceOption = [] := by
  induction values generalizing index with
  | nil => simp at was
  | cons first rest ih =>
    cases index with
    | zero =>
      cases was
      rw [List.reduceOption_cons_of_some] at few ⊢
      have empty : rest.reduceOption = [] := List.eq_nil_of_length_eq_zero (by simpa using few)
      rw [List.set_cons_zero, List.reduceOption_cons_of_none, empty]
      exact ⟨rfl, rfl⟩
    | succ index =>
      cases first with
      | none =>
        rw [List.reduceOption_cons_of_none] at few ⊢
        rw [List.set_cons_succ, List.reduceOption_cons_of_none]
        exact ih was few
      | some other =>
        rw [List.reduceOption_cons_of_some] at few
        have empty : rest.reduceOption = [] := List.eq_nil_of_length_eq_zero (by simpa using few)
        have found : value ∈ rest.reduceOption :=
          List.reduceOption_mem_iff.mpr (List.mem_of_getElem? was)
        rw [empty] at found
        contradiction

end BoundedIngest
