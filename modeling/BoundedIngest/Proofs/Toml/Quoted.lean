/-
Module: BoundedIngest.Proofs.Toml.Quoted
Purpose: A text in quotes is read as the text it spells, and is spelled as it is written.
Main exports:
  Quoted.readBasic_escape, Quoted.readBasic_body, Quoted.readLiteral_body,
  Quoted.readMultiline_escape, Quoted.readMultiline_continued, Quoted.readMultiline_body,
  Quoted.readOneLine?_spelled, Quoted.read?_spelled, Quoted.body_writeBasic, Quoted.spells_write
-/
import BoundedIngest.Toml.Grammar

namespace BoundedIngest.Toml.Quoted

/-!
A reader walks along the characters and remembers little: where in an escape it is, how many
quotes it has just seen, whether it drops blanks.  The grammar says the same in terms of what is
still to come, so each reader is followed by induction on a derivation, with whatever comes after
the closing quotes left open.
-/

variable {kind : QuoteKind} {quote c : Char} {several : Bool} {run : Nat}
  {text written escape blanks ending gap rest : List Char}

attribute [local simp] readBasic readMultiline

/-! ### Escapes -/

/-- A digit is worth the same to both. -/
theorem hexValue?_of_isHexDigit (hex : Numeral.isHexDigit c = true) :
    hexValue? c = some (Numeral.digitValue c) := by
  unfold hexValue? Numeral.digitValue
  by_cases digit : c.isDigit = true
  · rw [if_pos digit, if_pos digit]
  rw [if_neg digit, if_neg digit]
  have letters : ('a' ≤ c ∧ c ≤ 'f') ∨ ('A' ≤ c ∧ c ≤ 'F') := by
    simpa [Numeral.isHexDigit, digit] using hex
  rcases letters with lower | upper
  · rw [if_pos lower, if_pos lower.1]
  · have notLower : ¬ 'a' ≤ c := fun high => absurd (Char.le_trans high upper.2) (by decide)
    rw [if_neg (fun lower => notLower lower.1), if_pos upper, if_neg notLower]

theorem charOfNumber?_toNat (c : Char) : charOfNumber? c.toNat = some c := by
  have valid : c.toNat.isValidChar := c.valid
  rw [charOfNumber?, if_pos valid, Char.ofNat_toNat]

/-- No letter both announces a number and stands for a character. -/
theorem numericEscapeDigits?_of_short {letter : Char} (meant : shortEscape? letter = some c) :
    numericEscapeDigits? letter = none := by
  unfold numericEscapeDigits?
  split
  · contradiction
  · contradiction
  · rfl

theorem ne_nil_of_announced {letter : Char} {digits : List Char}
    (announced : numericEscapeDigits? letter = some digits.length) : digits ≠ [] := by
  rintro rfl
  unfold numericEscapeDigits? at announced
  split at announced <;> contradiction

section Numbers

variable {digits : List Char} {value : Nat}

/-- The step at a digit, which is the last one if no other is still to come. -/
theorem digits_cons (number : (c :: digits).foldl
    (fun value digit => value * 16 + Numeral.digitValue digit) value = quote.toNat) :
    (digits = [] ∧ value * 16 + Numeral.digitValue c = quote.toNat) ∨
      (digits ≠ [] ∧ digits.foldl (fun value digit => value * 16 + Numeral.digitValue digit)
        (value * 16 + Numeral.digitValue c) = quote.toNat) := by
  cases digits with
  | nil => exact .inl ⟨rfl, number⟩
  | cons next others => exact .inr ⟨List.cons_ne_nil _ _, number⟩

theorem readBasic_number (some : digits ≠ [])
    (hex : ∀ digit ∈ digits, Numeral.isHexDigit digit = true)
    (number : digits.foldl (fun value digit => value * 16 + Numeral.digitValue digit) value =
      c.toNat) :
    readBasic (.number digits.length value) (digits ++ rest) =
      consResult c (readBasic .plain rest) := by
  induction digits generalizing value with
  | nil => contradiction
  | cons digit digits ih =>
    obtain ⟨here, later⟩ := List.forall_mem_cons.mp hex
    rw [List.cons_append, readBasic, hexValue?_of_isHexDigit here]
    dsimp only
    rcases digits_cons number with ⟨rfl, last⟩ | ⟨more, number⟩
    · rw [if_pos (by simp), last, charOfNumber?_toNat]
      rfl
    · have length : ¬(digit :: digits).length ≤ 1 := by
        have := List.length_pos_iff.mpr more
        rw [List.length_cons]
        omega
      rw [if_neg length, List.length_cons, Nat.add_sub_cancel]
      exact ih more later number

theorem readMultiline_number (some : digits ≠ [])
    (hex : ∀ digit ∈ digits, Numeral.isHexDigit digit = true)
    (number : digits.foldl (fun value digit => value * 16 + Numeral.digitValue digit) value =
      c.toNat) :
    readMultiline kind (.number digits.length value) (digits ++ rest) =
      consResult c (readMultiline kind (.plain 0) rest) := by
  induction digits generalizing value with
  | nil => contradiction
  | cons digit digits ih =>
    obtain ⟨here, later⟩ := List.forall_mem_cons.mp hex
    rw [List.cons_append, readMultiline, hexValue?_of_isHexDigit here]
    dsimp only
    rcases digits_cons number with ⟨rfl, last⟩ | ⟨more, number⟩
    · rw [if_pos (by simp), last, charOfNumber?_toNat]
      rfl
    · have length : ¬(digit :: digits).length ≤ 1 := by
        have := List.length_pos_iff.mpr more
        rw [List.length_cons]
        omega
      rw [if_neg length, List.length_cons, Nat.add_sub_cancel]
      exact ih more later number

end Numbers

theorem readBasic_escape (means : Escape c escape) :
    readBasic .escape (escape ++ rest) = consResult c (readBasic .plain rest) := by
  cases means with
  | short letter meant =>
    rw [List.singleton_append, readBasic, numericEscapeDigits?_of_short meant, meant]
  | numeric letter digits announced hex number =>
    rw [List.cons_append, readBasic, announced]
    exact readBasic_number (ne_nil_of_announced announced) hex number

theorem readMultiline_escape (means : Escape c escape) :
    readMultiline kind .escape (escape ++ rest) =
      consResult c (readMultiline kind (.plain 0) rest) := by
  cases means with
  | short letter meant =>
    rw [List.singleton_append, readMultiline, numericEscapeDigits?_of_short meant, meant]
  | numeric letter digits announced hex number =>
    rw [List.cons_append, readMultiline, announced]
    exact readMultiline_number (ne_nil_of_announced announced) hex number

/-! ### On one line -/

theorem readBasic_body (body : Body basicKind false run text written) (rest : List Char) :
    readBasic .plain (written ++ '"' :: rest) = some (text, rest) := by
  induction body with
  | nil => rw [List.nil_append, readBasic, if_pos rfl]
  | itself stands other unescaped more ih =>
    rename_i c text written
    have notBackslash : c ≠ '\\' := fun same => Bool.noConfusion (unescaped same)
    have notQuote : c ≠ '"' := other
    have plain : isBasicChar c = true := by simp [isBasicChar, stands, notQuote, notBackslash]
    rw [List.cons_append, readBasic, if_neg notQuote, if_neg notBackslash, if_pos plain, ih]
    rfl
  | escaped escapes means more ih =>
    rw [List.cons_append, List.cons_append, List.append_assoc, readBasic, if_neg (by decide),
      if_pos rfl, readBasic_escape means, ih]
    rfl
  | lineBreak lines => contradiction
  | quote lines => contradiction
  | continued lines => contradiction

theorem readLiteral_body (body : Body literalKind false run text written) (rest : List Char) :
    readLiteral (written ++ '\'' :: rest) = some (text, rest) := by
  induction body with
  | nil => rw [List.nil_append, readLiteral, if_pos rfl]
  | itself stands other unescaped more ih =>
    rename_i c text written
    have notQuote : c ≠ '\'' := other
    have plain : isLiteralChar c = true := by simp [isLiteralChar, stands, notQuote]
    rw [List.cons_append, readLiteral, if_neg notQuote, if_pos plain, ih]
    rfl
  | escaped escapes => contradiction
  | lineBreak lines => contradiction
  | quote lines => contradiction
  | continued lines => contradiction

/-- Whoever reads a quoted text stops after the closing quote. -/
theorem readOneLine?_spelled (spells : OneLine text written) (rest : List Char) :
    readOneLine? (written ++ rest) = some (text, rest) := by
  cases spells with
  | basic body =>
    rw [List.cons_append, List.cons_append, List.append_assoc, List.singleton_append]
    exact readBasic_body body rest
  | literal body =>
    rw [List.cons_append, List.cons_append, List.append_assoc, List.singleton_append]
    exact readLiteral_body body rest

/-! ### On several lines -/

/-- The quote is one of the two there are. -/
def QuoteKind.Proper (kind : QuoteKind) : Prop := kind = basicKind ∨ kind = literalKind

theorem QuoteKind.Proper.ne (proper : kind.Proper) (other : c ≠ '"' ∧ c ≠ '\'') :
    c ≠ kind.quote := by
  rcases proper with rfl | rfl
  · exact other.1
  · exact other.2

theorem appendResult_appendResult (front more : List Char)
    (result : Option (List Char × List Char)) :
    appendResult front (appendResult more result) = appendResult (front ++ more) result := by
  cases result with
  | none => rfl
  | some pair => simp [appendResult]

/-- The last three quotes of a run close the text, and the others belong to it. -/
theorem readMultiline_close (few : run ≤ 2) (ends : rest.head? ≠ some kind.quote) :
    readMultiline kind (.plain run) (List.replicate 3 kind.quote ++ rest) =
      some (List.replicate run kind.quote, rest) := by
  have closed : ∀ quotes, readMultiline kind (.closing quotes) rest =
      some (List.replicate quotes kind.quote, rest) := by
    intro quotes
    cases rest with
    | nil => rw [readMultiline]
    | cons c rest =>
      have other : c ≠ kind.quote := by simpa using ends
      simp [other]
  obtain rfl | rfl | rfl : run = 0 ∨ run = 1 ∨ run = 2 := by omega
  · simp [List.replicate, closed]
  · simp [List.replicate, closed]
  · simp [List.replicate, closed]

/-- A quote that does not close the text yet. -/
theorem readMultiline_quote (kind : QuoteKind) (few : run < 2) (rest : List Char) :
    readMultiline kind (.plain run) (kind.quote :: rest) =
      readMultiline kind (.plain (run + 1)) rest := by
  rw [readMultiline, if_pos rfl, if_pos few]

/-- A character that stands for itself, after some quotes that do not close the text. -/
theorem readMultiline_itself (other : c ≠ kind.quote)
    (unescaped : c = '\\' → kind.escapes = false)
    (plain : (c = '\n' || isCommentChar c) = true) (rest : List Char) :
    readMultiline kind (.plain run) (c :: rest) =
      appendResult (List.replicate run kind.quote ++ [c]) (readMultiline kind (.plain 0) rest) := by
  have noEscape : ¬(c = '\\' && kind.escapes) = true := by simpa using unescaped
  rw [readMultiline, if_neg other, if_neg noEscape, if_pos plain]

theorem readMultiline_backslash (proper : kind.Proper) (escapes : kind.escapes = true)
    (rest : List Char) :
    readMultiline kind (.plain run) ('\\' :: rest) =
      appendResult (List.replicate run kind.quote) (readMultiline kind .escape rest) := by
  rw [readMultiline, if_neg (proper.ne (by decide)), if_pos (by simp [escapes])]

/-- Either line break is read as a line feed. -/
theorem readMultiline_lineBreak (proper : kind.Proper) (ends : LineBreak ending)
    (rest : List Char) :
    readMultiline kind (.plain run) (ending ++ rest) =
      appendResult (List.replicate run kind.quote ++ ['\n'])
        (readMultiline kind (.plain 0) rest) := by
  have feed : ∀ run, readMultiline kind (.plain run) ('\n' :: rest) =
      appendResult (List.replicate run kind.quote ++ ['\n'])
        (readMultiline kind (.plain 0) rest) :=
    fun run => readMultiline_itself (proper.ne (by decide)) (fun same => absurd same (by decide))
      rfl rest
  cases ends with
  | feed => exact feed run
  | both =>
    rw [List.cons_append, List.singleton_append, readMultiline,
      if_neg (proper.ne (by decide)), if_neg (by simp), if_neg (by decide), if_pos (by simp), feed,
      appendResult_appendResult]
    rfl

/-! A backslash at the end of a line leads through three states of the reader. -/

theorem readMultiline_beforeBreak (blank : Blanks blanks) (ends : LineBreak ending)
    (rest : List Char) :
    readMultiline kind .beforeBreak (blanks ++ ending ++ rest) =
      readMultiline kind .afterBreak rest := by
  induction blanks with
  | nil => cases ends <;> simp [isBlank]
  | cons c blanks ih =>
    obtain ⟨here, later⟩ := List.forall_mem_cons.mp blank
    rw [List.cons_append, List.cons_append, readMultiline, if_pos here]
    exact ih later

theorem readMultiline_lineEnd (blank : Blanks blanks) (ends : LineBreak ending)
    (rest : List Char) :
    readMultiline kind .escape (blanks ++ ending ++ rest) =
      readMultiline kind .afterBreak rest := by
  cases blanks with
  | nil =>
    cases ends with
    | feed => rfl
    | both => simp [numericEscapeDigits?, shortEscape?, isBlank]
  | cons c blanks =>
    obtain ⟨here, later⟩ := List.forall_mem_cons.mp blank
    have silent : numericEscapeDigits? c = none ∧ shortEscape? c = none := by
      obtain rfl | rfl : c = ' ' ∨ c = '\t' := by simpa [isBlank] using here
      · exact ⟨rfl, rfl⟩
      · exact ⟨rfl, rfl⟩
    rw [List.cons_append, List.cons_append, readMultiline, silent.1, silent.2]
    dsimp only
    rw [if_pos here]
    exact readMultiline_beforeBreak later ends rest

theorem readMultiline_gap (drops : Gap gap) (rest : List Char) :
    readMultiline kind .afterBreak (gap ++ rest) = readMultiline kind .afterBreak rest := by
  induction drops with
  | nil => rfl
  | blank blank others ih => rw [List.cons_append, readMultiline, if_pos (by simp [blank]), ih]
  | lineBreak ends others ih =>
    rw [List.append_assoc]
    cases ends with
    | feed => rw [List.singleton_append, readMultiline, if_pos (by simp), ih]
    | both =>
      rw [List.cons_append, List.singleton_append, readMultiline, if_neg (by decide),
        if_pos (by simp), readMultiline, if_pos (by simp), ih]

/-- Blanks are dropped up to the first character that is none. -/
theorem readMultiline_solid (escapes : kind.escapes = true)
    (solid : ∀ c, rest.head? = some c → isBlank c = false) (starts : StartsOnLine rest) :
    readMultiline kind .afterBreak rest = readMultiline kind (.plain 0) rest := by
  cases rest with
  | nil => rfl
  | cons c rest =>
    have notFeed : c ≠ '\n' := by simpa using starts.feed
    have notReturn : c ≠ '\r' := by simpa using starts.carriage
    have notBlank := solid c rfl
    simp only [readMultiline, notFeed, notReturn, notBlank, escapes, decide_false, Bool.or_false,
      Bool.false_and, Bool.and_true, Bool.false_or, decide_eq_true_eq, if_false,
      Bool.false_eq_true, List.replicate_zero, List.nil_append, Nat.zero_lt_succ, if_true]
    split
    · rfl
    split
    · cases readMultiline kind .escape rest <;> rfl
    · split
      · cases readMultiline kind (.plain 0) rest <;> rfl
      · rfl

theorem startsOnLine_append (starts : StartsOnLine text) (later : StartsOnLine rest) :
    StartsOnLine (text ++ rest) := by
  cases text with
  | nil => exact later
  | cons c text => exact ⟨by simpa using starts.feed, by simpa using starts.carriage⟩

/-- Three quotes of either kind start no line and are no blanks. -/
theorem QuoteKind.Proper.closing (proper : kind.Proper) (rest : List Char) :
    StartsOnLine (List.replicate 3 kind.quote ++ rest) ∧
      isBlank kind.quote = false := by
  rcases proper with rfl | rfl
  · exact ⟨⟨by simp [List.replicate, basicKind], by simp [List.replicate, basicKind]⟩, rfl⟩
  · exact ⟨⟨by simp [List.replicate, literalKind], by simp [List.replicate, literalKind]⟩, rfl⟩

theorem readMultiline_continued (proper : kind.Proper) (escapes : kind.escapes = true)
    (blank : Blanks blanks) (ends : LineBreak ending) (drops : Gap gap)
    (solid : ∀ c, rest.head? = some c → isBlank c = false) (starts : StartsOnLine rest) :
    readMultiline kind (.plain run) ('\\' :: blanks ++ ending ++ gap ++ rest) =
      appendResult (List.replicate run kind.quote) (readMultiline kind (.plain 0) rest) := by
  have shape : '\\' :: blanks ++ ending ++ gap ++ rest =
      '\\' :: (blanks ++ ending ++ (gap ++ rest)) := by
    simp
  rw [shape, readMultiline_backslash proper escapes, readMultiline_lineEnd blank ends,
    readMultiline_gap drops, readMultiline_solid escapes solid starts]

/-- By induction on the text, with the quotes already read in front of it. -/
theorem readMultiline_body (proper : kind.Proper) (body : Body kind true run text written)
    (few : run ≤ 2) (follows : rest.head? ≠ some kind.quote) :
    readMultiline kind (.plain run) (written ++ (List.replicate 3 kind.quote ++ rest)) =
      some (List.replicate run kind.quote ++ text, rest) := by
  induction body with
  | nil =>
    rw [List.nil_append, List.append_nil]
    exact readMultiline_close few follows
  | itself stands other unescaped more ih =>
    rw [List.cons_append, readMultiline_itself other unescaped (by simp [stands]),
      ih (Nat.zero_le _)]
    simp [appendResult]
  | escaped escapes means more ih =>
    rw [List.cons_append, List.cons_append, List.append_assoc,
      readMultiline_backslash proper escapes, readMultiline_escape means, ih (Nat.zero_le _)]
    rfl
  | lineBreak lines ends more ih =>
    rw [List.append_assoc, readMultiline_lineBreak proper ends, ih (Nat.zero_le _)]
    simp [appendResult]
  | quote lines fewer more ih =>
    rw [List.cons_append, readMultiline_quote kind fewer, ih fewer, List.replicate_succ',
      List.append_assoc, List.singleton_append]
  | continued lines escapes blank ends drops solid starts more ih =>
    rename_i text blanks ending gap written
    have later := startsOnLine_append starts (proper.closing rest).1
    have noBlank : ∀ c, (written ++ (List.replicate 3 kind.quote ++ rest)).head? = some c →
        isBlank c = false := by
      intro c first
      cases written with
      | nil =>
        cases Option.some.inj first
        exact (proper.closing rest).2
      | cons d written => exact solid c first
    rw [List.append_assoc, readMultiline_continued proper escapes blank ends drops noBlank later,
      ih (Nat.zero_le _)]
    rfl

/-! ### In any style -/

/-- No quote comes next. -/
structure Unquoted (rest : List Char) : Prop where
  double : rest.head? ≠ some '"'
  single : rest.head? ≠ some '\''

/-- A quote that opens a text on one line is not the first of three. -/
theorem not_three {written : List Char} (starts : written.head? ≠ some quote)
    (follows : rest.head? ≠ some quote) : ¬[quote, quote] <+: written ++ quote :: rest := by
  rintro ⟨more, whole⟩
  cases written with
  | nil =>
    obtain rfl : quote :: more = rest := by simpa using whole
    simp at follows
  | cons c written =>
    obtain ⟨rfl, -⟩ := List.cons.inj whole
    simp at starts

theorem Body.head_ne (proper : kind.Proper) (body : Body kind false run text written) :
    written.head? ≠ some kind.quote := by
  cases body with
  | nil => simp
  | itself stands other => simpa using other
  | escaped escapes => simpa using proper.ne (by decide)
  | lineBreak lines => contradiction
  | quote lines => contradiction
  | continued lines => contradiction

theorem read?_basic {body : List Char} (single : ¬['"', '"'] <+: body) :
    read? ('"' :: body) = readOneLine? ('"' :: body) := by
  unfold read?
  split
  · rename_i triple
    cases triple
    exact absurd ⟨_, rfl⟩ single
  · simp_all
  · rfl

theorem read?_literal {body : List Char} (single : ¬['\'', '\''] <+: body) :
    read? ('\'' :: body) = readOneLine? ('\'' :: body) := by
  unfold read?
  split
  · simp_all
  · rename_i triple
    cases triple
    exact absurd ⟨_, rfl⟩ single
  · rfl

theorem read?_oneLine (spells : OneLine text written) (follows : Unquoted rest) :
    read? (written ++ rest) = readOneLine? (written ++ rest) := by
  cases spells with
  | basic body =>
    rw [List.cons_append, List.cons_append, List.append_assoc, List.singleton_append]
    exact read?_basic (not_three (body.head_ne (.inl rfl)) follows.double)
  | literal body =>
    rw [List.cons_append, List.cons_append, List.append_assoc, List.singleton_append]
    exact read?_literal (not_three (body.head_ne (.inr rfl)) follows.single)

theorem lineBreak?_append (ends : LineBreak ending) (rest : List Char) :
    lineBreak? (ending ++ rest) = some rest := by
  cases ends <;> rfl

theorem dropFirstBreak_of_startsOnLine (starts : StartsOnLine text) :
    dropFirstBreak text = text := by
  have unbroken : lineBreak? text = none := by
    unfold lineBreak?
    split
    · exact absurd rfl starts.feed
    · exact absurd rfl starts.carriage
    · rfl
  rw [dropFirstBreak, unbroken, Option.getD_none]

/-- Nothing is left of what stands between the opening quotes and the text. -/
theorem dropFirstBreak_opened {opening : List Char} (opens : Opens written opening)
    (later : StartsOnLine rest) :
    dropFirstBreak (opening ++ (written ++ rest)) = written ++ rest := by
  cases opens with
  | lineBreak ends => rw [dropFirstBreak, lineBreak?_append ends, Option.getD_some]
  | text starts =>
    rw [List.nil_append]
    exact dropFirstBreak_of_startsOnLine (startsOnLine_append starts later)

/-- A text in quotes is read as what it spells, whatever follows it other than a quote. -/
theorem read?_spelled (spells : Spells text written) (follows : Unquoted rest) :
    read? (written ++ rest) = some (text, rest) := by
  cases spells with
  | oneLine spells => exact (read?_oneLine spells follows).trans (readOneLine?_spelled spells rest)
  | multilineBasic opens body =>
    rename_i opening written
    have shape : List.replicate 3 '"' ++ opening ++ written ++ List.replicate 3 '"' ++ rest =
        '"' :: '"' :: '"' :: (opening ++ (written ++ (List.replicate 3 '"' ++ rest))) := by
      simp [List.replicate]
    have proper : basicKind.Proper := .inl rfl
    have later : StartsOnLine (List.replicate 3 '"' ++ rest) := (proper.closing rest).1
    rw [shape, read?, dropFirstBreak_opened opens later]
    exact readMultiline_body proper body (Nat.zero_le _) follows.double
  | multilineLiteral opens body =>
    rename_i opening written
    have shape : List.replicate 3 '\'' ++ opening ++ written ++ List.replicate 3 '\'' ++ rest =
        '\'' :: '\'' :: '\'' :: (opening ++ (written ++ (List.replicate 3 '\'' ++ rest))) := by
      simp [List.replicate]
    have proper : literalKind.Proper := .inr rfl
    have later : StartsOnLine (List.replicate 3 '\'' ++ rest) := (proper.closing rest).1
    rw [shape, read?, dropFirstBreak_opened opens later]
    exact readMultiline_body proper body (Nat.zero_le _) follows.single

theorem OneLine.starts (spells : OneLine text written) :
    ∃ quote others, written = quote :: others ∧ (quote = '"' ∨ quote = '\'') := by
  cases spells with
  | basic => exact ⟨_, _, rfl, .inl rfl⟩
  | literal => exact ⟨_, _, rfl, .inr rfl⟩

theorem Spells.starts (spells : Spells text written) :
    ∃ quote others, written = quote :: others ∧ (quote = '"' ∨ quote = '\'') := by
  cases spells with
  | oneLine spells => exact spells.starts
  | multilineBasic => exact ⟨_, _, rfl, .inl rfl⟩
  | multilineLiteral => exact ⟨_, _, rfl, .inr rfl⟩

/-! ### What is written -/

/-- How a character other than the double quote is written between double quotes. -/
def basicText (multiline : Bool) (c : Char) : List Char :=
  if c = '\n' && multiline then ['\n']
  else if c = '\n' then ['\\', 'n']
  else if c = '\t' then ['\\', 't']
  else if c = '\r' then ['\\', 'r']
  else if c = '\\' then ['\\', '\\']
  else if c = '\x08' then ['\\', 'b']
  else if c = '\x0c' then ['\\', 'f']
  else if isControl c then numericEscape c
  else [c]

theorem writeBasic_cons {multiline : Bool} (other : c ≠ '"') :
    writeBasic multiline run (c :: text) =
      basicText multiline c ++ writeBasic multiline 0 text := by
  rw [writeBasic, if_neg other]
  rfl

/-- A digit is worth the number it was written for. -/
theorem hexDigit_mod (number : Nat) : Numeral.isHexDigit (hexDigit (number % 16)) = true ∧
    Numeral.digitValue (hexDigit (number % 16)) = number % 16 := by
  have all : ∀ digit < 16, Numeral.isHexDigit (hexDigit digit) = true ∧
      Numeral.digitValue (hexDigit digit) = digit := by
    decide
  exact all _ (Nat.mod_lt _ (by decide))

/-- Four digits are enough for a control character. -/
theorem escape_numericEscape (small : c.toNat < 65536) :
    ∃ escape, numericEscape c = '\\' :: escape ∧ Escape c escape := by
  refine ⟨_, rfl, .numeric 'u' _ rfl ?_ ?_⟩
  · simp [hexDigit_mod]
  · simp only [Numeral.ofDigits, List.foldl_cons, List.foldl_nil, hexDigit_mod]
    omega

theorem body_basicText (other : c ≠ '"') (more : Body basicKind several 0 text written) :
    Body basicKind several run (c :: text) (basicText several c ++ written) := by
  have letter : ∀ letter, shortEscape? letter = some c →
      Body basicKind several run (c :: text) (['\\', letter] ++ written) :=
    fun letter meant => .escaped rfl (.short letter meant) more
  unfold basicText
  split
  · rename_i feeds
    obtain ⟨rfl, lines⟩ : c = '\n' ∧ several = true := by simpa using feeds
    exact .lineBreak lines .feed more
  split
  · subst c
    exact letter 'n' rfl
  split
  · subst c
    exact letter 't' rfl
  split
  · subst c
    exact letter 'r' rfl
  split
  · subst c
    exact letter '\\' rfl
  split
  · subst c
    exact letter 'b' rfl
  split
  · subst c
    exact letter 'f' rfl
  split
  · rename_i control
    have small : c.toNat < 0x20 ∨ c.toNat = 0x7f := by simpa [isControl] using control
    obtain ⟨escape, same, means⟩ := escape_numericEscape (c := c) (by omega)
    rw [same]
    exact .escaped rfl means more
  · rename_i notBackslash _ _ notControl
    exact .itself (by simp [isCommentChar, notControl]) other (fun same => absurd same notBackslash)
      more

/-- By induction on the text, with the quotes just written in front of it. -/
theorem body_writeBasic (several : Bool) (run : Nat) (text : List Char) :
    Body basicKind several run text (writeBasic several run text) := by
  induction text generalizing run with
  | nil => exact .nil
  | cons c text ih =>
    by_cases quote : c = '"'
    · subst quote
      rw [writeBasic, if_pos rfl]
      by_cases few : run < (if several then 2 else 0)
      · rw [if_pos few]
        cases several with
        | false => exact absurd few (Nat.not_lt_zero _)
        | true => exact .quote rfl few (ih (run + 1))
      · rw [if_neg few]
        exact .escaped rfl (.short '"' rfl) (ih 0)
    · rw [writeBasic_cons quote]
      exact body_basicText quote (ih 0)

theorem body_oneLine (plain : ∀ c ∈ text, isLiteralChar c = true) :
    Body literalKind false run text text := by
  induction text generalizing run with
  | nil => exact .nil
  | cons c text ih =>
    obtain ⟨here, later⟩ := List.forall_mem_cons.mp plain
    obtain ⟨stands, other⟩ : isCommentChar c = true ∧ c ≠ '\'' := by
      simpa [isLiteralChar] using here
    exact .itself stands other (fun _ => rfl) (ih later)

theorem le_longestRunFrom (quote : Char) (run : Nat) (text : List Char) :
    run ≤ longestRunFrom quote run text := by
  induction text generalizing run with
  | nil => exact Nat.le_refl _
  | cons c rest ih =>
    rw [longestRunFrom]
    split
    · exact Nat.le_trans (Nat.le_succ run) (ih (run + 1))
    · exact Nat.le_max_left _ _

theorem not_mem_of_longestRunFrom (none : longestRunFrom quote run text = 0) : quote ∉ text := by
  induction text generalizing run with
  | nil => exact List.not_mem_nil
  | cons c text ih =>
    rw [longestRunFrom] at none
    split at none
    · have longer := le_longestRunFrom quote (run + 1) text
      omega
    · rename_i other
      rw [List.mem_cons, not_or]
      exact ⟨Ne.symm other, ih (Nat.max_eq_zero_iff.mp none).2⟩

theorem body_severalLines (plain : ∀ c ∈ text, (c = '\n' || isCommentChar c) = true)
    (few : longestRunFrom '\'' run text ≤ 2) : Body literalKind true run text text := by
  induction text generalizing run with
  | nil => exact .nil
  | cons c text ih =>
    obtain ⟨here, later⟩ := List.forall_mem_cons.mp plain
    rw [longestRunFrom] at few
    split at few
    · subst c
      exact .quote rfl (Nat.le_trans (le_longestRunFrom _ _ _) few) (ih later few)
    · rename_i other
      have more := ih later (Nat.le_trans (Nat.le_max_right _ _) few)
      by_cases feed : c = '\n'
      · subst feed
        exact .lineBreak rfl .feed more
      · exact .itself (by simpa [feed] using here) other (fun _ => rfl) more

/-- Texts that can be written in a style. -/
inductive Suits (text : List Char) : Style → Prop
  | basic : Suits text .basic
  | literal (plain : ∀ c ∈ text, needsEscape c = false) (unquoted : '\'' ∉ text)
      (oneLine : '\n' ∉ text) : Suits text .literal
  | multilineBasic : Suits text .multilineBasic
  | multilineLiteral (plain : ∀ c ∈ text, needsEscape c = false)
      (few : longestRun '\'' text ≤ 2) : Suits text .multilineLiteral

theorem suits_choose (text : List Char) : Suits text (Style.choose text) := by
  have plain : text.any needsEscape = false → ∀ c ∈ text, needsEscape c = false := by
    intro none c found
    simpa using List.any_eq_false.mp none c found
  unfold Style.choose
  dsimp only
  split
  · exact .basic
  split
  · rename_i suits
    obtain ⟨⟨unescaped, singles⟩, oneLine⟩ :
        (text.any needsEscape = false ∧ longestRun '\'' text = 0) ∧ '\n' ∉ text := by
      simpa using suits
    exact .literal (plain unescaped) (not_mem_of_longestRunFrom singles) oneLine
  split
  · exact .multilineBasic
  split
  · rename_i suits
    obtain ⟨unescaped, singles⟩ :
        text.any needsEscape = false ∧ longestRun '\'' text ≤ 2 := by
      simpa using suits
    exact .multilineLiteral (plain unescaped) singles
  split
  · exact .multilineBasic
  · exact .basic

theorem stands_of_plain (plain : needsEscape c = false) :
    (c = '\n' || isCommentChar c) = true := by
  simp only [needsEscape, isCommentChar] at *
  grind

theorem startsOnLine_of_plain (plain : isCommentChar c = true) (rest : List Char) :
    StartsOnLine (c :: rest) := by
  constructor
  · rintro ⟨⟩
    contradiction
  · rintro ⟨⟩
    contradiction

/-- What spells a text without line feeds does not start with a line break. -/
theorem Body.startsOnLine (proper : kind.Proper) (body : Body kind several run text written)
    (oneLine : '\n' ∉ text) : StartsOnLine written := by
  cases body with
  | nil => exact ⟨by simp, by simp⟩
  | itself stands => exact startsOnLine_of_plain stands _
  | escaped => exact startsOnLine_of_plain (by decide) _
  | lineBreak => simp at oneLine
  | quote => exact startsOnLine_of_plain (by rcases proper with rfl | rfl <;> decide) _
  | continued => exact startsOnLine_of_plain (by decide) _

/-- A line break after the opening quotes, wherever the text has one itself. -/
theorem Body.opens (proper : kind.Proper) (body : Body kind several run text written) :
    Opens written (if text.contains '\n' then ['\n'] else []) := by
  split
  · exact .lineBreak .feed
  · rename_i absent
    exact .text (body.startsOnLine proper (by simpa using absent))

theorem spells_writeAs {style : Style} (suits : Suits text style) :
    Spells text (writeAs text style) := by
  cases suits with
  | basic => exact .oneLine (.basic (body_writeBasic false 0 text))
  | literal plain unquoted oneLine =>
    refine .oneLine (.literal (body_oneLine fun c found => ?_))
    have stands := stands_of_plain (plain c found)
    have notFeed : c ≠ '\n' := ne_of_mem_of_not_mem found oneLine
    have notQuote : c ≠ '\'' := ne_of_mem_of_not_mem found unquoted
    simpa [isLiteralChar, notFeed, notQuote] using stands
  | multilineBasic =>
    have body := body_writeBasic true 0 text
    exact .multilineBasic (body.opens (.inl rfl)) body
  | multilineLiteral plain few =>
    have body := body_severalLines (fun c found => stands_of_plain (plain c found)) few
    exact .multilineLiteral (body.opens (.inr rfl)) body

/-- A text is spelled in the style that is chosen for it. -/
theorem spells_write (text : List Char) : Spells text (write text) :=
  spells_writeAs (suits_choose text)

end BoundedIngest.Toml.Quoted
