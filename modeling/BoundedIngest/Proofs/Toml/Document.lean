/-
Module: BoundedIngest.Proofs.Toml.Document
Purpose: A document is read as the tables it states, and states the tables it was written for.
Main exports:
  Toml.readKey?_spelled, Toml.readValue?_spelled, Toml.Layout.follow?,
  Toml.readStatement?_spelled, Toml.readStatements?_line, Toml.readStatements?_lines,
  Toml.Layout.followAll?_sections, Toml.parse?_of_states, Toml.states_printDocument,
  Toml.writesToml_write?, Toml.parse?_printDocument
-/
import BoundedIngest.Toml.Printer
import BoundedIngest.Toml.Reader
import BoundedIngest.Proofs.Toml.Numeral
import BoundedIngest.Proofs.Toml.Quoted

namespace BoundedIngest.Toml

/-!
A document is a sequence of lines, and the reader's state between two lines is a layout.  What a
line does to it depends on the statement of the line alone: a header puts away the table that was
being filled and starts another one, and a pair adds to the table being filled.  So reading is
separated from filling tables: first the lines are read, whatever the tables are, and then the
statements are followed, however they were written.
-/

variable {c : Char} {key : String} {scalar : Scalar} {layout middle next : Layout}
  {text written blanks before after ending rest : List Char}

/-! ### Blanks, line breaks and what ends a line -/

theorem blanks_nil : Blanks [] := by simp [Blanks]

theorem skipBlanks_append (blank : Blanks blanks) (text : List Char) :
    skipBlanks (blanks ++ text) = skipBlanks text :=
  List.dropWhile_append_of_pos blank

theorem skipBlanks_cons (solid : isBlank c = false) : skipBlanks (c :: rest) = c :: rest := by
  rw [skipBlanks, List.dropWhile_cons_of_neg (by simp [solid])]

/-- What is left of a line, and the lines after it. -/
inductive Stops : List Char → List Char → Prop
  | last : Stops [] []
  | lineBreak {ending rest : List Char} (ends : LineBreak ending) : Stops (ending ++ rest) rest

theorem Stops.ends (stops : Stops text rest) : Numeral.Ends text := by
  cases stops with
  | last => exact Numeral.ends_nil
  | lineBreak ends => cases ends <;> exact Numeral.ends_cons (by decide) _

theorem Trailing.ends {trailing : List Char} (trails : Trailing trailing)
    (stops : Stops text rest) : Numeral.Ends (trailing ++ text) := by
  have blank_ends : ∀ {c}, isBlank c = true → c ∈ Numeral.endings := by
    intro c blank
    obtain rfl | rfl : c = ' ' ∨ c = '\t' := by simpa [isBlank] using blank
    · decide
    · decide
  cases trails with
  | blanks blank =>
    cases trailing with
    | nil => exact stops.ends
    | cons c trailing => exact Numeral.ends_cons (blank_ends (blank c List.mem_cons_self)) _
  | @comment blanks body blank =>
    cases blanks with
    | nil => exact Numeral.ends_cons (c := '#') (by decide) _
    | cons c blanks => exact Numeral.ends_cons (blank_ends (blank c List.mem_cons_self)) _

theorem lineEnd?_stops (stops : Stops text rest) : lineEnd? text = some rest := by
  cases stops with
  | last => rfl
  | lineBreak ends => cases ends <;> rfl

theorem lineEnd?_append (blank : Blanks blanks) (text : List Char) :
    lineEnd? (blanks ++ text) = lineEnd? text := by
  rw [lineEnd?, skipBlanks_append blank, lineEnd?]

theorem lineEnd?_comment {body : List Char} (plain : ∀ c ∈ body, isCommentChar c = true)
    (stops : Stops text rest) : lineEnd? ('#' :: (body ++ text)) = some rest := by
  have dropped : (body ++ text).dropWhile isCommentChar = text := by
    rw [List.dropWhile_append_of_pos plain]
    cases stops with
    | last => rfl
    | lineBreak ends => cases ends <;> rfl
  have reached : skipComment (skipBlanks ('#' :: (body ++ text))) = text := by
    rw [skipBlanks_cons (by decide), skipComment, dropped]
  rw [lineEnd?, reached]
  cases stops with
  | last => rfl
  | lineBreak ends => cases ends <;> rfl

/-- Behind the blanks stands nothing, or what only a line without more statements has. -/
theorem Trailing.split {trailing : List Char} (trails : Trailing trailing)
    (stops : Stops text rest) :
    ∃ blanks tail, trailing ++ text = blanks ++ tail ∧ Blanks blanks ∧ lineEnd? tail = some rest ∧
      (tail = [] ∨ ∃ first others, tail = first :: others ∧
        (first = '#' ∨ first = '\n' ∨ first = '\r')) := by
  cases trails with
  | blanks blank =>
    refine ⟨_, text, rfl, blank, lineEnd?_stops stops, ?_⟩
    cases stops with
    | last => exact .inl rfl
    | lineBreak ends => cases ends <;> exact .inr ⟨_, _, rfl, by decide⟩
  | comment blank plain =>
    exact ⟨_, _, List.append_assoc _ _ _, blank, lineEnd?_comment plain stops,
      .inr ⟨'#', _, rfl, .inl rfl⟩⟩

theorem lineEnd?_trailing {trailing : List Char} (trails : Trailing trailing)
    (stops : Stops text rest) : lineEnd? (trailing ++ text) = some rest := by
  obtain ⟨blanks, tail, same, blank, ended, -⟩ := trails.split stops
  rw [same, lineEnd?_append blank, ended]

/-! ### Keys -/

/-- A character that a statement may start with. -/
structure Opening (c : Char) : Prop where
  blank : isBlank c = false
  comment : c ≠ '#'
  feed : c ≠ '\n'
  carriage : c ≠ '\r'
  mark : c ≠ '\ufeff'

/-- A character that a key may start with. -/
structure Solid (c : Char) : Prop extends Opening c where
  bracket : c ≠ '['

theorem solid_of_isBareKeyChar (bare : isBareKeyChar c = true) : Solid c := by
  have other : ∀ letter, isBareKeyChar letter = false → c ≠ letter := by
    rintro letter notBare rfl
    rw [notBare] at bare
    contradiction
  have notBlank : isBlank c = false := by
    simp [isBlank, other ' ' (by decide), other '\t' (by decide)]
  exact ⟨⟨notBlank, other _ (by decide), other _ (by decide), other _ (by decide),
    other _ (by decide)⟩, other _ (by decide)⟩

theorem solid_of_quote (quote : c = '"' ∨ c = '\'') : Solid c := by
  rcases quote with rfl | rfl
  · exact ⟨⟨rfl, by decide, by decide, by decide, by decide⟩, by decide⟩
  · exact ⟨⟨rfl, by decide, by decide, by decide, by decide⟩, by decide⟩

theorem IsBareKey.starts (bare : IsBareKey key) :
    ∃ first others, key.toList = first :: others ∧ isBareKeyChar first = true := by
  obtain ⟨first, others, same⟩ := List.exists_cons_of_ne_nil bare.nonempty
  refine ⟨first, others, same, bare.plain first ?_⟩
  rw [same]
  exact List.mem_cons_self

theorem KeySpells.starts (spells : KeySpells key written) :
    ∃ first others, written = first :: others ∧ Solid first := by
  cases spells with
  | bare bare =>
    obtain ⟨first, others, same, plain⟩ := bare.starts
    exact ⟨first, others, same, solid_of_isBareKeyChar plain⟩
  | quoted spells =>
    obtain ⟨quote, others, same, isQuote⟩ := spells.starts
    exact ⟨quote, others, same, solid_of_quote isQuote⟩

theorem IsBareKey.readKeyPart? (bare : IsBareKey key)
    (ends : ∀ c, rest.head? = some c → isBareKeyChar c = false) :
    readKeyPart? (key.toList ++ rest) = some (key, rest) := by
  obtain ⟨first, others, same, plain⟩ := bare.starts
  have taken : (key.toList ++ rest).takeWhile isBareKeyChar = key.toList := by
    rw [List.takeWhile_append_of_pos bare.plain]
    cases rest with
    | nil => simp
    | cons c rest => simp [ends c rfl]
  have left : (key.toList ++ rest).dropWhile isBareKeyChar = rest := by
    rw [List.dropWhile_append_of_pos bare.plain]
    cases rest with
    | nil => rfl
    | cons c rest => simp [ends c rfl]
  unfold Toml.readKeyPart?
  rw [same, List.cons_append] at taken left ⊢
  split
  · rename_i quoted
    obtain ⟨rfl, -⟩ := List.cons.inj quoted
    contradiction
  · rename_i quoted
    obtain ⟨rfl, -⟩ := List.cons.inj quoted
    contradiction
  · split
    · rename_i none
      rw [taken] at none
      contradiction
    · rename_i part some _
      rw [taken, left, ← same, String.ofList_toList]

theorem readKeyPart?_spelled (spells : KeySpells key written)
    (ends : ∀ c, rest.head? = some c → isBareKeyChar c = false) :
    readKeyPart? (written ++ rest) = some (key, rest) := by
  cases spells with
  | bare bare => exact bare.readKeyPart? ends
  | quoted spells =>
    have read := Quoted.readOneLine?_spelled spells rest
    obtain ⟨quote, others, rfl, isQuote⟩ := spells.starts
    rw [List.cons_append] at read ⊢
    have same : String.ofList key.toList = key := String.ofList_toList
    rcases isQuote with rfl | rfl
    · simp only [readKeyPart?, read, Option.map_some, same]
    · simp only [readKeyPart?, read, Option.map_some, same]

/-- A key is read up to the sign that comes after it, with the blanks on either side. -/
theorem readKey?_spelled (spells : KeySpells key written) (leads : Blanks before)
    (trails : Blanks after) (sign : c = '=' ∨ c = ']') :
    readKey? (before ++ (written ++ (after ++ c :: rest))) = some (([], key), c :: rest) := by
  have sound : isBlank c = false ∧ isBareKeyChar c = false ∧ c ≠ '.' := by
    rcases sign with rfl | rfl
    · exact ⟨rfl, rfl, by decide⟩
    · exact ⟨rfl, rfl, by decide⟩
  have ends : ∀ d, (after ++ c :: rest).head? = some d → isBareKeyChar d = false := by
    intro d first
    cases after with
    | nil =>
      cases Option.some.inj first
      exact sound.2.1
    | cons blank after =>
      cases Option.some.inj first
      obtain rfl | rfl : d = ' ' ∨ d = '\t' := by
        simpa [isBlank] using trails d List.mem_cons_self
      · rfl
      · rfl
  have part := readKeyPart?_spelled spells ends
  have reached : skipBlanks (before ++ (written ++ (after ++ c :: rest))) =
      written ++ (after ++ c :: rest) := by
    obtain ⟨first, others, rfl, solid⟩ := spells.starts
    exact (skipBlanks_append leads _).trans (skipBlanks_cons solid.blank)
  have parts : ∀ bound, readKeyParts? (bound + 1)
      (before ++ (written ++ (after ++ c :: rest))) = some ([key], c :: rest) := by
    intro bound
    rw [readKeyParts?, reached, part, Option.bind_eq_bind, Option.bind_some]
    dsimp only
    rw [skipBlanks_append trails, skipBlanks_cons sound.1]
    split
    · rename_i point
      exact absurd (List.cons.inj point).1 sound.2.2
    · rfl
  rw [readKey?, maxKeyParts, parts]
  rfl

/-! ### Values -/

theorem readValue?_quoted (nesting : Nat) (quote : c = '"' ∨ c = '\'') :
    readValue? nesting (c :: rest) =
      (Quoted.read? (c :: rest)).map fun (content, rest) =>
        (.text (String.ofList content), rest) := by
  unfold readValue?
  dsimp only
  rw [if_pos (by simpa using quote)]

theorem readValue?_numeral (nesting : Nat) (starts : c.isDigit = true ∨ c = '+' ∨ c = '-') :
    readValue? nesting (c :: rest) = Numeral.readNumeral? (c :: rest) := by
  have other : ∀ letter : Char,
      letter.isDigit = false ∧ letter ≠ '+' ∧ letter ≠ '-' → c ≠ letter := by
    rintro letter ⟨notDigit, notPlus, notDash⟩ rfl
    rcases starts with digit | plus | dash
    · rw [notDigit] at digit
      contradiction
    · exact notPlus plus
    · exact notDash dash
  have numeral : (c.isDigit || c = '+' || c = '-') = true := by
    rcases starts with digit | plus | dash
    · simp [digit]
    · simp [plus]
    · simp [dash]
  unfold readValue?
  dsimp only
  rw [if_neg (by simp [other]), if_neg (other _ (by decide)), if_neg (other _ (by decide)),
    if_neg (other _ (by decide)), if_neg (other _ (by decide)), if_neg (by simp [other]),
    if_pos numeral]

theorem Scalar.Spells.starts (spells : scalar.Spells written) :
    ∃ first others, written = first :: others ∧ isBlank first = false := by
  cases spells with
  | text spells =>
    obtain ⟨quote, others, same, isQuote⟩ := spells.starts
    exact ⟨quote, others, same, (solid_of_quote isQuote).blank⟩
  | integer spells =>
    obtain ⟨first, others, same, starts⟩ := spells.starts
    refine ⟨first, others, same, ?_⟩
    rw [Bool.eq_false_iff]
    intro blank
    obtain rfl | rfl : first = ' ' ∨ first = '\t' := by simpa [isBlank] using blank
    · contradiction
    · contradiction

theorem unquoted_of_ends (ends : Numeral.Ends rest) : Quoted.Unquoted rest :=
  ⟨fun first => absurd (ends _ first) (by decide), fun first => absurd (ends _ first) (by decide)⟩

/-- A value is read as what it spells, where it may end. -/
theorem readValue?_spelled (spells : scalar.Spells written) (fits : scalar.isInRange = true)
    (nesting : Nat) (ends : Numeral.Ends rest) :
    readValue? nesting (written ++ rest) = some (scalar.value, rest) := by
  cases spells with
  | text spells =>
    have read := Quoted.read?_spelled spells (unquoted_of_ends ends)
    obtain ⟨quote, others, rfl, isQuote⟩ := spells.starts
    rw [List.cons_append] at read ⊢
    rw [readValue?_quoted nesting isQuote, read, Option.map_some]
    dsimp only
    rw [String.ofList_toList]
    rfl
  | integer spells =>
    rename_i value
    have within : minInteger ≤ value ∧ value ≤ maxInteger := by
      simpa [Scalar.isInRange] using fits
    have read := Numeral.readNumeral?_spelled spells within ends
    obtain ⟨first, others, rfl, starts⟩ := spells.starts
    rw [List.cons_append] at read ⊢
    rw [readValue?_numeral nesting starts, read]
    rfl

/-! ### Statements -/

/-- No integer of the statement is too large. -/
def Statement.isInRange : Statement → Bool
  | .header _ => true
  | .pair _ scalar => scalar.isInRange

/-- What a statement does to a layout. -/
def Layout.follow? (layout : Layout) : Statement → Option Layout
  | .header name => layout.openTable? [] name
  | .pair key scalar => layout.assign? [] key scalar.value

theorem Statement.Spells.starts {statement : Statement} (spells : statement.Spells written) :
    ∃ first others, written = first :: others ∧ Opening first := by
  cases spells with
  | header => exact ⟨'[', _, rfl, rfl, by decide, by decide, by decide, by decide⟩
  | pair keySpells =>
    obtain ⟨first, others, rfl, solid⟩ := keySpells.starts
    exact ⟨first, _, rfl, solid.toOpening⟩

theorem readHeader?_spelled (spells : KeySpells key written) (leads : Blanks before)
    (trails : Blanks after) (opens : layout.openTable? [] key = some next) (rest : List Char) :
    readHeader? layout (before ++ (written ++ (after ++ ']' :: rest))) = some (next, rest) := by
  have read : readKey? (before ++ (written ++ (after ++ ']' :: rest))) =
      some (([], key), ']' :: rest) := readKey?_spelled spells leads trails (.inr rfl)
  unfold readHeader?
  split
  · rename_i double
    -- A second bracket is neither a blank nor does a key start with it.
    cases before with
    | nil =>
      obtain ⟨first, others, rfl, solid⟩ := spells.starts
      exact absurd (List.cons.inj double).1 solid.bracket
    | cons blank before =>
      obtain ⟨rfl, -⟩ := List.cons.inj double
      exact absurd (leads _ List.mem_cons_self) (by decide)
  · rw [read, Option.bind_eq_bind, Option.bind_some]
    dsimp only
    rw [opens]
    rfl

theorem readPair?_spelled {value : List Char} (keySpells : KeySpells key written)
    (leads : Blanks before) (trails : Blanks after) (spells : scalar.Spells value)
    (fits : scalar.isInRange = true) (nesting : Nat) (ends : Numeral.Ends rest) :
    readPair? (readValue? nesting)
        (written ++ (before ++ '=' :: (after ++ (value ++ rest)))) =
      some (([], key, scalar.value), rest) := by
  have read : readKey? ([] ++ (written ++ (before ++ '=' :: (after ++ (value ++ rest))))) =
      some (([], key), '=' :: (after ++ (value ++ rest))) :=
    readKey?_spelled keySpells blanks_nil leads (.inl rfl)
  have reached : skipBlanks (after ++ (value ++ rest)) = value ++ rest := by
    obtain ⟨first, others, rfl, solid⟩ := spells.starts
    exact (skipBlanks_append trails _).trans (skipBlanks_cons solid)
  rw [List.nil_append] at read
  rw [readPair?, read]
  simp only [Option.bind_eq_bind, Option.bind_some, reached,
    readValue?_spelled spells fits nesting ends]
  rfl

/-- A statement is read up to where a value may end. -/
theorem readStatement?_spelled {statement : Statement} (spells : statement.Spells written)
    (fits : statement.isInRange = true) (follows : layout.follow? statement = some next)
    (ends : Numeral.Ends rest) : readStatement? layout (written ++ rest) = some (next, rest) := by
  cases spells with
  | header leads spells trails =>
    have read := readHeader?_spelled spells leads trails follows rest
    simpa [readStatement?] using read
  | pair keySpells leads trails spells =>
    rename_i key scalar written before after value
    have read := readPair?_spelled keySpells leads trails spells fits maxNesting ends
    have shape : written ++ before ++ '=' :: after ++ value ++ rest =
        written ++ (before ++ '=' :: (after ++ (value ++ rest))) := by
      simp
    obtain ⟨first, others, rfl, solid⟩ := keySpells.starts
    rw [shape]
    unfold readStatement?
    split
    · rename_i header
      exact absurd (List.cons.inj header).1 solid.bracket
    · rw [read, Option.bind_eq_bind, Option.bind_some]
      dsimp only
      rw [show layout.assign? [] key scalar.value = some next from follows]
      rfl

/-! ### Lines -/

/-- What a line does to a layout. -/
def Layout.obey? (layout : Layout) : Option Statement → Option Layout
  | none => some layout
  | some statement => layout.follow? statement

/-- A line without a statement is passed over. -/
theorem readStatements?_empty (trails : Trailing written) (stops : Stops text rest) (fuel : Nat) :
    readStatements? (fuel + 2) layout (written ++ text) =
      readStatements? (fuel + 1) layout rest := by
  obtain ⟨blanks, tail, same, blank, ended, nothing | ⟨first, others, reached, starts⟩⟩ :=
    trails.split stops
  · subst nothing
    obtain rfl : [] = rest := Option.some.inj ended
    rw [same, readStatements?, skipBlanks_append blank]
    rfl
  · subst reached
    have passes : (first = '#' || first = '\n' || first = '\r') = true := by
      simpa [or_assoc] using starts
    have solid : isBlank first = false := by
      rcases starts with rfl | rfl | rfl <;> rfl
    rw [same, readStatements?, skipBlanks_append blank, skipBlanks_cons solid]
    dsimp only
    rw [if_pos passes, ended]

theorem Line.eq_none {statement : Option Statement} (line : Line statement []) :
    statement = none := by
  generalize same : ([] : List Char) = written at line
  cases line with
  | empty => rfl
  | statement leads spells =>
    obtain ⟨first, others, rfl, -⟩ := spells.starts
    simp at same

/-- A line is read, and the next one is taken up with what its statement has done. -/
theorem readStatements?_line {statement : Option Statement} (line : Line statement written)
    (fits : ∀ stated ∈ statement, stated.isInRange = true)
    (obeys : layout.obey? statement = some next) (stops : Stops text rest) (fuel : Nat) :
    readStatements? (fuel + 2) layout (written ++ text) =
      readStatements? (fuel + 1) next rest := by
  cases line with
  | empty trails =>
    cases obeys
    exact readStatements?_empty trails stops fuel
  | statement leads spells trails =>
    rename_i statement blanks written trailing
    have read := readStatement?_spelled spells (fits statement rfl) obeys (trails.ends stops)
    have ended := lineEnd?_trailing trails stops
    obtain ⟨first, others, rfl, opening⟩ := spells.starts
    rw [List.append_assoc, List.append_assoc, readStatements?, skipBlanks_append leads]
    rw [List.cons_append] at read ⊢
    rw [skipBlanks_cons opening.blank]
    simp only [opening.comment, opening.feed, opening.carriage, decide_false, Bool.or_false,
      Bool.false_eq_true, if_false, read, Option.bind_eq_bind, Option.bind_some, ended]

/-- What statements do to a layout, one after the other. -/
def Layout.followAll? (layout : Layout) (statements : List Statement) : Option Layout :=
  statements.foldlM Layout.follow? layout

theorem Layout.followAll?_append {first others : List Statement}
    (begins : layout.followAll? first = some middle)
    (goesOn : middle.followAll? others = some next) :
    layout.followAll? (first ++ others) = some next := by
  rw [followAll?] at begins goesOn ⊢
  rw [List.foldlM_append, begins]
  exact goesOn

/-- By induction on the lines, each of which takes up at least one character, its line break. -/
theorem readStatements?_lines {statements : List Statement} (lines : Lines statements text)
    (fits : ∀ statement ∈ statements, statement.isInRange = true)
    (follows : layout.followAll? statements = some next) {fuel : Nat}
    (enough : text.length < fuel) : readStatements? fuel layout text = some next := by
  have obeys : ∀ {layout next : Layout} {statement : Option Statement} {others : List Statement},
      layout.followAll? (statement.toList ++ others) = some next →
        ∃ middle, layout.obey? statement = some middle ∧ middle.followAll? others = some next := by
    intro layout next statement others follows
    cases statement with
    | none => exact ⟨layout, rfl, follows⟩
    | some statement => exact Option.bind_eq_some_iff.mp follows
  induction lines generalizing layout fuel with
  | last line =>
    rename_i statement written
    rw [← List.append_nil statement.toList] at follows
    obtain ⟨middle, obeyed, done⟩ := obeys follows
    cases done
    have fits : ∀ stated ∈ statement, stated.isInRange = true :=
      fun stated found => fits stated (Option.mem_toList.mpr found)
    cases written with
    | nil =>
      obtain rfl := line.eq_none
      cases obeyed
      obtain ⟨fuel, rfl⟩ := Nat.exists_eq_add_of_lt enough
      rfl
    | cons c written =>
      obtain ⟨fuel, rfl⟩ : ∃ more, fuel = more + 2 := by
        rw [List.length_cons] at enough
        exact ⟨fuel - 2, by omega⟩
      have read := readStatements?_line line fits obeyed .last fuel
      rwa [List.append_nil] at read
  | next line ends others ih =>
    rename_i statement statements written ending more
    obtain ⟨middle, obeyed, follows⟩ := obeys follows
    obtain ⟨here, later⟩ := List.forall_mem_append.mp fits
    have here : ∀ stated ∈ statement, stated.isInRange = true :=
      fun stated found => here stated (Option.mem_toList.mpr found)
    have visible : 0 < ending.length := by cases ends <;> decide
    rw [List.length_append, List.length_append] at enough
    obtain ⟨fuel, rfl⟩ : ∃ less, fuel = less + 2 := ⟨fuel - 2, by omega⟩
    rw [List.append_assoc, readStatements?_line line here obeyed (.lineBreak ends)]
    exact ih later follows (by omega)

/-! ### The beginning of a document -/

theorem Blanks.head_ne (blank : Blanks blanks) : blanks.head? ≠ some '\ufeff' := by
  intro first
  exact absurd (blank _ (List.mem_of_head? first)) (by decide)

/-- No line starts with a byte order mark. -/
theorem Line.head_ne {statement : Option Statement} (line : Line statement written) :
    written.head? ≠ some '\ufeff' := by
  cases line with
  | empty trails =>
    cases trails with
    | blanks blank => exact blank.head_ne
    | @comment blanks body blank =>
      cases blanks with
      | nil => simp
      | cons c blanks => exact blank.head_ne
  | @statement statement blanks written trailing leads spells =>
    cases blanks with
    | nil =>
      obtain ⟨first, others, rfl, opening⟩ := spells.starts
      simpa using opening.mark
    | cons c blanks => exact leads.head_ne

theorem Lines.head_ne {statements : List Statement} (lines : Lines statements text) :
    text.head? ≠ some '\ufeff' := by
  cases lines with
  | last line => exact line.head_ne
  | @next _ _ written ending more line ends =>
    cases written with
    | nil => cases ends <;> simp
    | cons c written => exact line.head_ne

theorem parse?_of_lines {document : String} {statements : List Statement}
    (lines : Lines statements document.toList)
    (fits : ∀ statement ∈ statements, statement.isInRange = true)
    (follows : ({} : Layout).followAll? statements = some layout) :
    parse? document = layout.document? := by
  have unmarked : dropByteOrderMark document.toList = document.toList := by
    unfold dropByteOrderMark
    split
    · rename_i marked
      exact absurd (by rw [marked]; rfl) lines.head_ne
    · rfl
  rw [parse?, unmarked, readStatements?_lines lines fits follows (Nat.lt_succ_self _)]
  rfl

/-! ### Tables -/

theorem lookup_eq_none {α : Type} {entries : List (String × α)}
    (absent : key ∉ entries.map Prod.fst) : entries.lookup key = none := by
  apply List.lookup_eq_none_iff.mpr
  intro entry found
  rw [bne_iff_ne]
  rintro rfl
  exact absent (List.mem_map_of_mem found)

theorem insertNew?_fresh {entries : Entries} {item : Item} (fresh : entries.lookup key = none) :
    entries.insertNew? key item = some (entries ++ [(key, item)]) := by
  rw [Entries.insertNew?, fresh]
  rfl

theorem finishEntries_eq_map (entries : Entries) :
    finishEntries entries = entries.map fun entry => (entry.1, entry.2.finish) := by
  induction entries with
  | nil => rfl
  | cons entry entries ih => rw [finishEntries, ih, List.map_cons]

namespace Section

/-- What the pairs of a table leave in the table being filled. -/
def entries (pairs : List (String × Scalar)) : Entries :=
  pairs.map fun pair => (pair.1, .value pair.2.value)

/-- How a table stands among those put away. -/
def item (part : Section) : String × Item := (part.name, .table .header (entries part.pairs))

theorem finish_item (part : Section) : (part.item.1, part.item.2.finish) = part.value := by
  rw [item, Item.finish, finishEntries_eq_map, entries, List.map_map]
  rfl

theorem isInRange_statements {part : Section} (readable : part.IsReadable) :
    ∀ statement ∈ part.statements, statement.isInRange = true := by
  rw [statements, List.forall_mem_cons]
  exact ⟨rfl, List.forall_mem_map.mpr readable.fits⟩

end Section

namespace Layout

open Section

variable {finished current closed : Entries} {name : String}
variable {pairs : List (String × Scalar)} {part : Section} {parts : List Section}

/-- A layout that stands in a table of the outermost one. -/
def inTable (finished : Entries) (name : String) (current : Entries) : Layout :=
  { finished, current, place := .table [] name }

theorem close?_inTable (fresh : finished.lookup name = none) :
    (inTable finished name current).close? =
      some (finished ++ [(name, .table .header current)]) := by
  simp only [close?, inTable, Entries.visit?, insertNew?_fresh fresh, Option.map_some]

theorem openTable?_fresh (closes : layout.close? = some closed)
    (fresh : closed.lookup name = none) :
    layout.openTable? [] name = some (inTable closed name []) := by
  simp only [openTable?, closes, Entries.visit?, fresh, Option.bind_eq_bind, Option.bind_some]
  rfl

theorem assign?_inTable {value : Value} (fresh : current.lookup key = none) :
    (inTable finished name current).assign? [] key value =
      some (inTable finished name (current ++ [(key, .value value)])) := by
  simp only [assign?, inTable, Entries.assign?, insertNew?_fresh fresh, Option.bind_eq_bind,
    Option.bind_some]
  rfl

/-- Pairs are added to the table being filled, in their order. -/
theorem followAll?_pairs (distinct : (current.map Prod.fst ++ pairs.map Prod.fst).Nodup) :
    (inTable finished name current).followAll?
        (pairs.map fun pair => .pair pair.1 pair.2) =
      some (inTable finished name (current ++ entries pairs)) := by
  induction pairs generalizing current with
  | nil =>
    rw [entries, List.map_nil, List.map_nil, List.append_nil]
    rfl
  | cons head pairs ih =>
    obtain ⟨key, scalar⟩ := head
    have fresh : key ∉ current.map Prod.fst := by
      intro found
      exact (List.nodup_append.mp distinct).2.2 key found key (by simp) rfl
    have first : (inTable finished name current).assign? [] key scalar.value =
        some (inTable finished name (current ++ [(key, .value scalar.value)])) :=
      assign?_inTable (lookup_eq_none fresh)
    have apart : ((current ++ [(key, Item.value scalar.value)]).map Prod.fst ++
        pairs.map Prod.fst).Nodup := by
      simpa using distinct
    have others := ih apart
    have together : current ++ entries ((key, scalar) :: pairs) =
        current ++ [(key, .value scalar.value)] ++ entries pairs := by
      simp [entries]
    rw [List.map_cons, together]
    exact Option.bind_eq_some_iff.mpr ⟨_, first, others⟩

/-- A header and its pairs put away what was there and fill their table. -/
theorem followAll?_section (readable : part.IsReadable) (closes : layout.close? = some closed)
    (fresh : closed.lookup part.name = none) :
    layout.followAll? part.statements = some (inTable closed part.name (entries part.pairs)) := by
  have opened := openTable?_fresh closes fresh
  have pairs : (inTable closed part.name []).followAll?
        (part.pairs.map fun pair => .pair pair.1 pair.2) =
      some (inTable closed part.name ([] ++ entries part.pairs)) :=
    followAll?_pairs (by simpa using readable.distinct)
  exact Option.bind_eq_some_iff.mpr ⟨_, opened, pairs⟩

/-- All tables are put away in their order. -/
theorem followAll?_sections (readable : ∀ part ∈ parts, part.IsReadable)
    (closes : layout.close? = some closed)
    (distinct : (closed.map Prod.fst ++ parts.map Section.name).Nodup) :
    ∃ next, layout.followAll? (parts.flatMap Section.statements) = some next ∧
      next.close? = some (closed ++ parts.map item) := by
  induction parts generalizing layout closed with
  | nil => exact ⟨layout, rfl, by rw [closes, List.map_nil, List.append_nil]⟩
  | cons part parts ih =>
    obtain ⟨here, later⟩ := List.forall_mem_cons.mp readable
    have absent : part.name ∉ closed.map Prod.fst := by
      intro found
      exact (List.nodup_append.mp distinct).2.2 part.name found part.name (by simp) rfl
    have fresh := lookup_eq_none absent
    have first := followAll?_section here closes fresh
    have puts : (inTable closed part.name (entries part.pairs)).close? =
        some (closed ++ [part.item]) := close?_inTable fresh
    have others : ((closed ++ [part.item]).map Prod.fst ++ parts.map Section.name).Nodup := by
      simpa [item] using distinct
    obtain ⟨next, goesOn, ends⟩ := ih later puts others
    exact ⟨next, followAll?_append first goesOn, by simpa using ends⟩

end Layout

/-- A document is read as the tables it states, however it is laid out. -/
theorem parse?_of_states {parts : List Section} {document : String}
    (readable : ∀ part ∈ parts, part.IsReadable) (distinct : (parts.map Section.name).Nodup)
    (states : States parts document) : parse? document = some (parts.map Section.value) := by
  have empty : ({} : Layout).close? = some [] := rfl
  obtain ⟨layout, follows, closes⟩ :=
    Layout.followAll?_sections readable empty (by simpa using distinct)
  have fits : ∀ statement ∈ parts.flatMap Section.statements, statement.isInRange = true := by
    intro statement found
    obtain ⟨part, given, within⟩ := List.mem_flatMap.mp found
    exact Section.isInRange_statements (readable part given) statement within
  rw [parse?_of_lines states fits follows, Layout.document?, closes, Option.map_some,
    List.nil_append, finishEntries_eq_map, List.map_map]
  exact congrArg some (List.map_congr_left fun part _ => part.finish_item)

/-! ### What is written -/

theorem keySpells_printKey (key : String) : KeySpells key (printKey key) := by
  unfold printKey
  split
  · rename_i bare
    exact .bare bare
  · exact .quoted (.basic (Quoted.body_writeBasic false 0 key.toList))

theorem Scalar.spells_print (scalar : Scalar) : scalar.Spells scalar.print := by
  cases scalar with
  | text content => exact .text (Quoted.spells_write content.toList)
  | integer value => exact .integer (Numeral.spells_integerText value)

theorem blanks_space : Blanks [' '] := by simp [Blanks, isBlank]

/-- A line that ends with its statement, and the lines after it. -/
theorem Lines.cons {statement : Statement} {statements : List Statement}
    (spells : statement.Spells written) (others : Lines statements rest) :
    Lines (statement :: statements) (written ++ '\n' :: rest) := by
  have line : Line (some statement) ([] ++ written ++ []) :=
    .statement blanks_nil spells (.blanks blanks_nil)
  rw [List.nil_append, List.append_nil] at line
  have lines := Lines.next line .feed others
  simpa using lines

theorem Lines.emptyLine {statements : List Statement} (others : Lines statements rest) :
    Lines statements ('\n' :: rest) :=
  .next (.empty (.blanks blanks_nil)) .feed others

theorem lines_pairs {statements : List Statement} (pairs : List (String × Scalar))
    (others : Lines statements rest) :
    Lines (pairs.map (fun pair => .pair pair.1 pair.2) ++ statements)
      ((pairs.map printPair).flatten ++ rest) := by
  induction pairs with
  | nil => exact others
  | cons pair pairs ih =>
    have spells : (Statement.pair pair.1 pair.2).Spells
        (printKey pair.1 ++ [' '] ++ '=' :: [' '] ++ pair.2.print) :=
      .pair (keySpells_printKey pair.1) blanks_space blanks_space pair.2.spells_print
    have lines := Lines.cons spells ih
    simpa [printPair] using lines

theorem lines_section {statements : List Statement} (part : Section)
    (others : Lines statements rest) :
    Lines (part.statements ++ statements) (part.print ++ rest) := by
  have spells : (Statement.header part.name).Spells
      ('[' :: [] ++ printKey part.name ++ [] ++ [']']) :=
    .header blanks_nil (keySpells_printKey part.name) blanks_nil
  have lines := Lines.cons spells (lines_pairs part.pairs others)
  simpa [Section.statements, Section.print] using lines

/-- A document states the tables it was written for. -/
theorem states_printDocument (parts : List Section) : States parts (printDocument parts) := by
  have nothing : Lines [] [] := .last (.empty (.blanks blanks_nil))
  rw [States, printDocument, String.toList_ofList]
  induction parts with
  | nil => exact nothing
  | cons part parts ih =>
    cases parts with
    | nil =>
      have lines := lines_section part nothing
      simpa using lines
    | cons second parts =>
      have lines := lines_section part (Lines.emptyLine ih)
      simpa using lines

theorem writesToml_write? : WritesToml write? := by
  intro parts readable distinct
  have fits : (parts.all fun part => part.pairs.all fun pair => pair.2.isInRange) = true := by
    simp only [List.all_eq_true]
    exact fun part given => (readable part given).fits
  exact ⟨printDocument parts, if_pos fits, states_printDocument parts⟩

/-- A document is read back as it was written. -/
theorem parse?_printDocument {parts : List Section} (readable : ∀ part ∈ parts, part.IsReadable)
    (distinct : (parts.map Section.name).Nodup) :
    parse? (printDocument parts) = some (parts.map Section.value) :=
  parse?_of_states readable distinct (states_printDocument parts)

end BoundedIngest.Toml
