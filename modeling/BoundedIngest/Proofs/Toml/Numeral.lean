/-
Module: BoundedIngest.Proofs.Toml.Numeral
Purpose: An integer is read as what it spells, and is spelled as it is written.
Main exports:
  Numeral.Ends, Numeral.scanDigits_spelled, Numeral.readDecimal?_spelled,
  Numeral.readNumeral?_spelled, Numeral.Spells.starts, Numeral.ofDigits_toDigits,
  Numeral.spells_integerText
-/
import BoundedIngest.Toml.Grammar

namespace BoundedIngest.Toml.Numeral

/-!
A reader that meets a digit may be in front of an integer, a float, a date or a time, and
tells by what follows.  A value is followed by a blank, a comment or the end of its line, none of
which goes on with a number or is part of one.
-/

variable {isDigit : Char → Bool} {c : Char} {digits written rest : List Char} {number : Nat}

/-! ### Where a number ends -/

/-- The characters that may follow a value on its line or end the line. -/
def endings : List Char := [' ', '\t', '#', '\n', '\r']

/-- A value may end here. -/
def Ends (rest : List Char) : Prop := ∀ c, rest.head? = some c → c ∈ endings

theorem ends_nil : Ends [] := by
  rintro c ⟨⟩

theorem ends_cons (found : c ∈ endings) (rest : List Char) : Ends (c :: rest) := by
  rintro _ ⟨⟩
  exact found

/-- A number of these digits is told from what follows it. -/
def Apart (isDigit : Char → Bool) : Prop := isDigit '_' = false ∧ ∀ c ∈ endings, isDigit c = false

theorem apart_isDigit : Apart Char.isDigit := by
  refine ⟨rfl, ?_⟩
  simp [endings, Char.isDigit]

theorem Base.apart {letter : Char} {base : Nat} (announced : Base letter base isDigit) :
    Apart isDigit := by
  refine ⟨?_, ?_⟩
  · cases announced <;> rfl
  · cases announced <;> simp [endings, isHexDigit, isOctalDigit, isBinaryDigit, Char.isDigit]

/-! ### Digits -/

theorem scanDigits_end (apart : Apart isDigit) (ends : Ends rest) :
    scanDigits isDigit true rest = some ([], rest) := by
  cases rest with
  | nil => rfl
  | cons c rest =>
    have found := ends c rfl
    have notLine : c ≠ '_' := ne_of_mem_of_not_mem found (by decide)
    simp [scanDigits, apart.2 c found, notLine]

theorem scanDigits_spelled (apart : Apart isDigit) (spells : Digits isDigit digits written)
    (ends : Ends rest) (afterDigit : Bool) :
    scanDigits isDigit afterDigit (written ++ rest) = some (digits, rest) := by
  induction spells generalizing afterDigit with
  | single digit =>
    rw [List.singleton_append, scanDigits, if_pos digit, scanDigits_end apart ends]
  | next digit more ih => rw [List.cons_append, scanDigits, if_pos digit, ih]
  | grouped digit more ih =>
    rename_i c digits written
    have line : scanDigits isDigit true ('_' :: (written ++ rest)) = some (digits, rest) := by
      rw [scanDigits, if_neg (by simp [apart.1]), if_neg (by decide), if_pos rfl]
      exact ih false
    rw [List.cons_append, List.cons_append, scanDigits, if_pos digit, line]

theorem Digits.starts (spells : Digits isDigit digits written) :
    ∃ first others more, digits = first :: others ∧ written = first :: more ∧
      isDigit first = true := by
  cases spells with
  | single digit => exact ⟨_, _, _, rfl, rfl, digit⟩
  | next digit => exact ⟨_, _, _, rfl, rfl, digit⟩
  | grouped digit => exact ⟨_, _, _, rfl, rfl, digit⟩

/-- Nothing but digits and underscores. -/
theorem Digits.mem (spells : Digits isDigit digits written) (found : c ∈ written) :
    isDigit c = true ∨ c = '_' := by
  induction spells with
  | single digit =>
    rw [List.mem_singleton.mp found]
    exact .inl digit
  | next digit more ih =>
    rcases List.mem_cons.mp found with rfl | found
    · exact .inl digit
    · exact ih found
  | grouped digit more ih =>
    rcases List.mem_cons.mp found with rfl | found
    · exact .inl digit
    rcases List.mem_cons.mp found with line | found
    · exact .inr line
    · exact ih found

theorem Whole.starts (whole : Whole number written) :
    ∃ first more, written = first :: more ∧ first.isDigit = true := by
  cases whole with
  | zero => exact ⟨_, _, rfl, rfl⟩
  | digits spells =>
    obtain ⟨first, -, more, -, same, digit⟩ := spells.starts
    exact ⟨first, more, same, digit⟩

theorem Whole.mem (whole : Whole number written) (found : c ∈ written) :
    c.isDigit = true ∨ c = '_' := by
  cases whole with
  | zero =>
    rw [List.mem_singleton.mp found]
    exact .inl rfl
  | digits spells => exact spells.mem found

theorem readWhole?_spelled (whole : Whole number written) (ends : Ends rest) :
    ∃ digits, readWhole? (written ++ rest) = some (digits, rest) ∧ ofDigits 10 digits = number := by
  cases whole with
  | zero => exact ⟨['0'], rfl, rfl⟩
  | digits spells leads =>
    rename_i digits
    refine ⟨digits, ?_, rfl⟩
    obtain ⟨first, others, more, rfl, rfl, -⟩ := spells.starts
    have notZero : first ≠ '0' := by simpa using leads
    have scanned := scanDigits_spelled apart_isDigit spells ends false
    rw [List.cons_append] at scanned ⊢
    rw [readWhole?, scanned]
    intro tail same
    exact notZero (List.cons.inj same).1

theorem integer?_eq_some {value : Int} (fits : minInteger ≤ value ∧ value ≤ maxInteger) :
    integer? value = some (.integer value) := if_pos fits

/-- Neither a point nor an exponent follows, so it is no float. -/
theorem readDecimal?_spelled (whole : Whole number written) {negative : Bool} {value : Int}
    (signed : value = if negative then -(number : Int) else number)
    (fits : minInteger ≤ value ∧ value ≤ maxInteger) (ends : Ends rest) :
    readDecimal? negative (written ++ rest) = some (.integer value, rest) := by
  obtain ⟨digits, read, same⟩ := readWhole?_spelled whole ends
  rw [readDecimal?, read, Option.bind_eq_bind, Option.bind_some]
  dsimp only
  split
  · exact absurd (ends _ rfl) (by decide)
  · exact absurd (ends _ rfl) (by decide)
  · exact absurd (ends _ rfl) (by decide)
  · rw [same, ← signed, integer?_eq_some fits]
    rfl

/-! ### What an integer is not -/

/-- A character that comes after some that do not end a value belongs to the value, or ends it. -/
theorem next_of_ends {front tail : List Char} (ends : Ends rest)
    (whole : written ++ rest = front ++ c :: tail) (ahead : ∀ c ∈ front, c ∉ endings) :
    c ∈ written ∨ c ∈ endings := by
  induction front generalizing written with
  | nil =>
    cases written with
    | nil =>
      rw [List.nil_append, List.nil_append] at whole
      exact .inr (ends c (by rw [whole]; rfl))
    | cons first others =>
      obtain ⟨rfl, -⟩ := List.cons.inj whole
      exact .inl List.mem_cons_self
  | cons first front ih =>
    obtain ⟨here, later⟩ := List.forall_mem_cons.mp ahead
    cases written with
    | nil =>
      rw [List.nil_append] at whole
      exact absurd (ends first (by rw [whole]; rfl)) here
    | cons _ others =>
      rcases ih (List.cons.inj whole).2 later with found | found
      · exact .inl (List.mem_cons_of_mem _ found)
      · exact .inr found

theorem not_ending_of_isDigit (digit : c.isDigit = true) : c ∉ endings := by
  intro found
  rw [apart_isDigit.2 c found] at digit
  contradiction

/-- A character that is in no number does not come right after digits. -/
theorem Whole.ne (whole : Whole number written) (ends : Ends rest) {front tail : List Char}
    (ahead : ∀ c ∈ front, c.isDigit = true)
    (other : c.isDigit = false ∧ c ≠ '_' ∧ c ∉ endings) : written ++ rest ≠ front ++ c :: tail := by
  intro same
  rcases next_of_ends ends same (fun c found => not_ending_of_isDigit (ahead c found)) with
    found | found
  · rcases whole.mem found with digit | line
    · rw [other.1] at digit
      contradiction
    · exact other.2.1 line
  · exact other.2.2 found

theorem Whole.ne_cons (whole : Whole number written) (ends : Ends rest) {tail : List Char}
    (other : c.isDigit = false ∧ c ≠ '_' ∧ c ∉ endings) : written ++ rest ≠ c :: tail := by
  have none : ∀ c ∈ ([] : List Char), c.isDigit = true := by simp
  exact whole.ne ends none other

theorem startsDate_whole (whole : Whole number written) (ends : Ends rest) :
    startsDate (written ++ rest) = false := by
  unfold startsDate
  split
  · rename_i a b c d tail same
    rw [Bool.eq_false_iff]
    intro dated
    have ahead : ∀ letter ∈ [a, b, c, d], letter.isDigit = true := by
      simpa [and_assoc] using dated
    exact whole.ne ends ahead (by decide) same
  · rfl

theorem startsTime_whole (whole : Whole number written) (ends : Ends rest) :
    startsTime (written ++ rest) = false := by
  unfold startsTime
  split
  · rename_i hour tail timed
    unfold readTwoDigits? at timed
    split at timed
    · rename_i a b more same
      obtain ⟨both, answer⟩ := Option.ite_none_right_eq_some.mp timed
      have ahead : ∀ letter ∈ [a, b], letter.isDigit = true := by
        simp only [Bool.and_eq_true, and_assoc] at both
        simp [both.1, both.2.1]
      cases answer
      exact absurd same (whole.ne ends ahead (by decide))
    · contradiction
  · rfl

theorem readSpecialFloat?_whole (whole : Whole number written) (ends : Ends rest) :
    readSpecialFloat? (written ++ rest) = none := by
  unfold readSpecialFloat?
  split
  · rename_i same
    exact absurd same (whole.ne_cons ends (by decide))
  · rename_i same
    exact absurd same (whole.ne_cons ends (by decide))
  · rfl

/-- Neither a date nor a time starts with a sign, or has a letter behind its first digit. -/
theorem startsDate_cons (other : c.isDigit = false) (text : List Char) :
    startsDate (c :: text) = false ∧ startsDate ('0' :: c :: text) = false := by
  constructor
  · unfold startsDate
    split
    · rename_i same
      obtain ⟨rfl, -⟩ := List.cons.inj same
      simp [other]
    · rfl
  · unfold startsDate
    split
    · rename_i same
      obtain ⟨-, same⟩ := List.cons.inj same
      obtain ⟨rfl, -⟩ := List.cons.inj same
      simp [other]
    · rfl

theorem startsTime_cons (other : c.isDigit = false) (text : List Char) :
    startsTime (c :: text) = false ∧ startsTime ('0' :: c :: text) = false := by
  constructor
  · cases text <;> simp [startsTime, readTwoDigits?, other]
  · simp [startsTime, readTwoDigits?, other]

/-! ### Integers -/

theorem readNumeral?_plain (whole : Whole number written)
    (fits : minInteger ≤ (number : Int) ∧ (number : Int) ≤ maxInteger) (ends : Ends rest) :
    readNumeral? (written ++ rest) = some (.integer number, rest) := by
  have zero : ∀ c ∈ ['0'], c.isDigit = true := List.forall_mem_singleton.mpr rfl
  have second : ∀ {letter : Char} {tail : List Char},
      letter.isDigit = false ∧ letter ≠ '_' ∧ letter ∉ endings →
        written ++ rest ≠ '0' :: letter :: tail :=
    fun other => whole.ne ends zero other
  unfold readNumeral?
  rw [startsDate_whole whole ends, startsTime_whole whole ends, if_neg (by decide),
    if_neg (by decide)]
  split
  · rename_i same
    exact absurd same (second (by decide))
  · rename_i same
    exact absurd same (second (by decide))
  · rename_i same
    exact absurd same (second (by decide))
  · rename_i same
    exact absurd same (whole.ne_cons ends (by decide))
  · rename_i same
    exact absurd same (whole.ne_cons ends (by decide))
  · exact readDecimal?_spelled whole rfl fits ends

/-- A sign comes before an integer in base ten. -/
theorem readNumeral?_signed {sign : Char} (isSign : sign = '+' ∨ sign = '-')
    (whole : Whole number written) {value : Int}
    (signed : value = if sign = '-' then -(number : Int) else number)
    (fits : minInteger ≤ value ∧ value ≤ maxInteger) (ends : Ends rest) :
    readNumeral? (sign :: (written ++ rest)) = some (.integer value, rest) := by
  have notSpecial := readSpecialFloat?_whole whole ends
  rcases isSign with rfl | rfl
  · rw [readNumeral?, (startsDate_cons rfl _).1, (startsTime_cons rfl _).1, if_neg (by decide),
      if_neg (by decide), notSpecial, Option.none_or]
    exact readDecimal?_spelled whole (by simpa using signed) fits ends
  · rw [readNumeral?, (startsDate_cons rfl _).1, (startsTime_cons rfl _).1, if_neg (by decide),
      if_neg (by decide), notSpecial, Option.none_or]
    exact readDecimal?_spelled whole (by simpa using signed) fits ends

theorem readRadix?_spelled (apart : Apart isDigit) {base : Nat}
    (spells : Digits isDigit digits written)
    (fits : minInteger ≤ (ofDigits base digits : Int) ∧ (ofDigits base digits : Int) ≤ maxInteger)
    (ends : Ends rest) :
    readRadix? base isDigit (written ++ rest) = some (.integer (ofDigits base digits), rest) := by
  rw [readRadix?, scanDigits_spelled apart spells ends, Option.bind_eq_bind, Option.bind_some]
  dsimp only
  rw [integer?_eq_some fits]
  rfl

theorem readNumeral?_based {letter : Char} {base : Nat} (announced : Base letter base isDigit)
    (text : List Char) : readNumeral? ('0' :: letter :: text) = readRadix? base isDigit text := by
  cases announced <;>
    rw [readNumeral?, (startsDate_cons rfl _).2, (startsTime_cons rfl _).2, if_neg (by decide),
      if_neg (by decide)]

/-- An integer of 64 bits is read as what it spells, where a value may end. -/
theorem readNumeral?_spelled {value : Int} (spells : Spells value written)
    (fits : minInteger ≤ value ∧ value ≤ maxInteger) (ends : Ends rest) :
    readNumeral? (written ++ rest) = some (.integer value, rest) := by
  cases spells with
  | plain whole => exact readNumeral?_plain whole fits ends
  | positive whole => exact readNumeral?_signed (.inl rfl) whole rfl fits ends
  | negative whole => exact readNumeral?_signed (.inr rfl) whole rfl fits ends
  | based announced spells =>
    rw [List.cons_append, List.cons_append, readNumeral?_based announced]
    exact readRadix?_spelled announced.apart spells fits ends

theorem Spells.starts {value : Int} (spells : Spells value written) :
    ∃ first others, written = first :: others ∧
      (first.isDigit = true ∨ first = '+' ∨ first = '-') := by
  cases spells with
  | plain whole =>
    obtain ⟨first, others, same, digit⟩ := whole.starts
    exact ⟨first, others, same, .inl digit⟩
  | positive whole => exact ⟨_, _, rfl, .inr (.inl rfl)⟩
  | negative whole => exact ⟨_, _, rfl, .inr (.inr rfl)⟩
  | based announced spells => exact ⟨_, _, rfl, .inl rfl⟩

/-! ### What is written -/

theorem ofDigits_eq (digit : ∀ c ∈ digits, c.isDigit = true) (value : Nat) :
    digits.foldl (fun value c => value * 10 + digitValue c) value =
      Nat.ofDigitChars 10 digits value := by
  induction digits generalizing value with
  | nil => rfl
  | cons c digits ih =>
    obtain ⟨here, later⟩ := List.forall_mem_cons.mp digit
    rw [List.foldl_cons, Nat.ofDigitChars_cons, ih later, digitValue, if_pos here, Nat.mul_comm]
    rfl

theorem isDigit_toDigits (number : Nat) : ∀ c ∈ Nat.toDigits 10 number, c.isDigit = true :=
  fun _ found => Nat.isDigit_of_mem_toDigits (by decide) (by decide) found

theorem ofDigits_toDigits (number : Nat) : ofDigits 10 (Nat.toDigits 10 number) = number := by
  rw [ofDigits, ofDigits_eq (isDigit_toDigits number), Nat.ofDigitChars_ten_toDigits]

/-- Only zero starts with a zero. -/
theorem eq_zero_of_toDigits (leads : Nat.toDigits 10 number = '0' :: digits) : number = 0 := by
  induction number using Nat.strongRecOn generalizing digits with
  | ind number ih =>
    rw [Nat.toDigits_eq_if (by decide)] at leads
    split at leads
    · obtain ⟨zero, -⟩ := List.cons.inj leads
      exact Nat.digitChar_eq_zero.mp zero
    · rename_i large
      obtain ⟨first, others, more⟩ := List.exists_cons_of_ne_nil
        (Nat.toDigits_ne_nil : Nat.toDigits 10 (number / 10) ≠ [])
      rw [more, List.cons_append] at leads
      obtain ⟨rfl, -⟩ := List.cons.inj leads
      have none := ih (number / 10) (by omega) more
      omega

/-- Digits without underscores. -/
theorem digits_self (some : digits ≠ []) (digit : ∀ c ∈ digits, isDigit c = true) :
    Digits isDigit digits digits := by
  induction digits with
  | nil => contradiction
  | cons c digits ih =>
    obtain ⟨here, later⟩ := List.forall_mem_cons.mp digit
    cases digits with
    | nil => exact .single here
    | cons next others => exact .next here (ih (List.cons_ne_nil _ _) later)

theorem whole_toDigits (number : Nat) : Whole number (Nat.toDigits 10 number) := by
  by_cases zero : number = 0
  · subst zero
    exact .zero
  · have leads : (Nat.toDigits 10 number).head? ≠ some '0' := by
      intro first
      obtain ⟨others, same⟩ := List.head?_eq_some_iff.mp first
      exact zero (eq_zero_of_toDigits same)
    have whole := Whole.digits (digits_self Nat.toDigits_ne_nil (isDigit_toDigits number)) leads
    rwa [ofDigits_toDigits] at whole

theorem integerText_natCast (number : Nat) :
    integerText (Int.ofNat number) = Nat.toDigits 10 number := Nat.toList_repr

theorem integerText_negSucc (number : Nat) :
    integerText (Int.negSucc number) = '-' :: Nat.toDigits 10 (number + 1) := by
  have repr : toString (Int.negSucc number) = "-" ++ Nat.repr (number + 1) := rfl
  rw [integerText, repr, String.toList_append, Nat.toList_repr]
  rfl

/-- An integer is spelled in base ten. -/
theorem spells_integerText (value : Int) : Spells value (integerText value) := by
  cases value with
  | ofNat number =>
    rw [integerText_natCast]
    exact .plain (whole_toDigits number)
  | negSucc number =>
    rw [integerText_negSucc, Int.negSucc_eq]
    exact .negative (whole_toDigits (number + 1))

end BoundedIngest.Toml.Numeral
