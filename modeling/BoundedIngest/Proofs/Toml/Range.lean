/-
Module: BoundedIngest.Proofs.Toml.Range
Purpose: Whatever is read from a text, its integers fit into 64 bits with a sign.
Main exports:
  Toml.Value.InRange, Toml.Entries.InRange, Toml.Layout.InRange, Toml.inRange_readValue?,
  Toml.inRange_readStatements?, Toml.inRange_parse?
-/
import BoundedIngest.Proofs.Toml.Document

namespace BoundedIngest.Toml

/-!
An integer gets into a document only through the reader of numerals, which refuses what does not
fit.  Everything else puts values together: arrays, inline tables, and the tables of a layout.  So
it is enough that putting together keeps what is in range in range.
-/

/-- Every integer in it, however deep, fits. -/
inductive Value.InRange : Value → Prop where
  | text (content : String) : InRange (.text content)
  | integer (value : Int) (least : minInteger ≤ value) (most : value ≤ maxInteger) :
      InRange (.integer value)
  | float (literal : String) : InRange (.float literal)
  | boolean (value : Bool) : InRange (.boolean value)
  | moment (literal : String) : InRange (.moment literal)
  | array (items : List Value) (all : ∀ item ∈ items, InRange item) : InRange (.array items)
  | table (entries : List (String × Value)) (all : ∀ entry ∈ entries, InRange entry.2) :
      InRange (.table entries)

variable {text rest : List Char} {value : Value} {key : String} {path : List String}
  {entries next : Entries} {item : Item}

/-! ### Tables under construction -/

namespace Entries

def InRange (entries : Entries) : Prop := ∀ entry ∈ entries, entry.2.finish.InRange

theorem inRange_finish (inRange : entries.InRange) :
    ∀ entry ∈ finishEntries entries, entry.2.InRange := by
  rw [finishEntries_eq_map]
  exact List.forall_mem_map.mpr inRange

theorem inRange_table (origin : Origin) :
    (Item.table origin entries).finish.InRange ↔ entries.InRange := by
  constructor
  · intro fits
    rw [Item.finish] at fits
    cases fits with
    | table _ all =>
      rw [finishEntries_eq_map] at all
      exact fun entry found => all _ (List.mem_map_of_mem found)
  · intro inRange
    rw [Item.finish]
    exact .table _ (inRange_finish inRange)

theorem finishElements_eq_map (elements : List Entries) :
    finishElements elements = elements.map fun entries => .table (finishEntries entries) := by
  induction elements with
  | nil => rfl
  | cons entries rest ih => rw [finishElements, ih, List.map_cons]

theorem inRange_tables (elements : List Entries) :
    (Item.tables elements).finish.InRange ↔ ∀ entries ∈ elements, entries.InRange := by
  have each : ∀ entries : Entries,
      (Value.table (finishEntries entries)).InRange ↔ entries.InRange := by
    intro entries
    rw [← Item.finish, inRange_table .header]
  rw [Item.finish, finishElements_eq_map]
  constructor
  · intro fits
    cases fits with
    | array _ all =>
      intro entries found
      exact (each entries).mp (List.forall_mem_map.mp all entries found)
  · intro all
    refine .array _ (List.forall_mem_map.mpr fun entries found => ?_)
    exact (each entries).mpr (all entries found)

theorem InRange.lookup (inRange : entries.InRange) (found : entries.lookup key = some item) :
    item.finish.InRange := by
  obtain ⟨before, after, rfl, -⟩ := List.lookup_eq_some_iff.mp found
  exact inRange (key, item) (by simp)

theorem InRange.concat (inRange : entries.InRange) (fits : item.finish.InRange) :
    InRange (entries ++ [(key, item)]) :=
  List.forall_mem_append.mpr ⟨inRange, List.forall_mem_singleton.mpr fits⟩

theorem InRange.replace (inRange : entries.InRange) (fits : item.finish.InRange) :
    (entries.replace key item).InRange := by
  refine List.forall_mem_map.mpr fun entry found => ?_
  split
  · exact fits
  · exact inRange entry found

theorem InRange.insertNew? (inRange : entries.InRange) (fits : item.finish.InRange)
    (inserted : entries.insertNew? key item = some next) : next.InRange := by
  unfold Entries.insertNew? at inserted
  split at inserted
  · contradiction
  · cases inserted
    exact inRange.concat fits

/-- The last element of an array of tables may change. -/
theorem inRange_last {elements : List Entries} {inner : Entries}
    (fits : (Item.tables elements).finish.InRange) (inRange : inner.InRange) :
    (Item.tables (elements.dropLast ++ [inner])).finish.InRange := by
  rw [inRange_tables] at fits ⊢
  refine List.forall_mem_append.mpr ⟨fun entries found => ?_, List.forall_mem_singleton.mpr inRange⟩
  exact fits entries (List.dropLast_subset elements found)

theorem InRange.assign? (inRange : entries.InRange) (fits : value.InRange)
    (assigned : entries.assign? key value path = some next) : next.InRange := by
  induction path generalizing entries next with
  | nil =>
    rw [Entries.assign?] at assigned
    refine inRange.insertNew? ?_ assigned
    rwa [Item.finish]
  | cons step path ih =>
    rw [Entries.assign?] at assigned
    split at assigned
    · obtain ⟨inner, within, done⟩ := Option.bind_eq_some_iff.mp assigned
      cases done
      exact inRange.concat ((inRange_table _).mpr (ih (List.forall_mem_nil _) within))
    · rename_i origin inner found
      split at assigned
      · contradiction
      · obtain ⟨changed, within, done⟩ := Option.bind_eq_some_iff.mp assigned
        cases done
        have there := (inRange_table _).mp (inRange.lookup found)
        exact inRange.replace ((inRange_table _).mpr (ih there within))
    · rename_i elements found
      split at assigned
      · rename_i inner last
        split at assigned
        · contradiction
        · obtain ⟨changed, within, done⟩ := Option.bind_eq_some_iff.mp assigned
          cases done
          have all := inRange.lookup found
          have there := (inRange_tables _).mp all inner (List.mem_of_getLast? last)
          exact inRange.replace (inRange_last all (ih there within))
      · contradiction
    · contradiction

/-- Where a header leads, the change decides. -/
theorem InRange.visit? {β : Type} {change : Entries → Option (β × Entries)} {answer : β}
    (Fits : β → Prop)
    (keeps : ∀ {entries next : Entries} {answer : β}, entries.InRange →
      change entries = some (answer, next) → Fits answer ∧ next.InRange)
    (inRange : entries.InRange) (visited : visit? change path entries = some (answer, next)) :
    Fits answer ∧ next.InRange := by
  induction path generalizing entries next with
  | nil => exact keeps inRange visited
  | cons step path ih =>
    rw [Entries.visit?] at visited
    split at visited
    · obtain ⟨⟨reply, inner⟩, within, done⟩ := Option.bind_eq_some_iff.mp visited
      cases done
      obtain ⟨fits, after⟩ := ih (List.forall_mem_nil _) within
      exact ⟨fits, inRange.concat ((inRange_table _).mpr after)⟩
    · rename_i origin inner found
      obtain ⟨⟨reply, changed⟩, within, done⟩ := Option.bind_eq_some_iff.mp visited
      cases done
      obtain ⟨fits, after⟩ := ih ((inRange_table _).mp (inRange.lookup found)) within
      exact ⟨fits, inRange.replace ((inRange_table _).mpr after)⟩
    · rename_i elements found
      split at visited
      · rename_i inner last
        obtain ⟨⟨reply, changed⟩, within, done⟩ := Option.bind_eq_some_iff.mp visited
        cases done
        have all := inRange.lookup found
        obtain ⟨fits, after⟩ :=
          ih ((inRange_tables _).mp all inner (List.mem_of_getLast? last)) within
        exact ⟨fits, inRange.replace (inRange_last all after)⟩
      · contradiction
    · contradiction

end Entries

/-! ### Layouts -/

namespace Layout

structure InRange (layout : Layout) : Prop where
  finished : Entries.InRange layout.finished
  current : Entries.InRange layout.current

variable {layout after : Layout} {closed : Entries}

theorem inRange_start : InRange {} := ⟨List.forall_mem_nil _, List.forall_mem_nil _⟩

theorem InRange.close? (inRange : layout.InRange) (closes : layout.close? = some closed) :
    Entries.InRange closed := by
  unfold Layout.close? at closes
  split at closes
  · cases closes
    exact inRange.current
  · obtain ⟨⟨answer, changed⟩, visited, rfl⟩ := Option.map_eq_some_iff.mp closes
    refine (Entries.InRange.visit? (fun _ => True) ?_ inRange.finished visited).2
    intro entries next answer before changes
    obtain ⟨inserted, there, done⟩ := Option.map_eq_some_iff.mp changes
    cases done
    exact ⟨trivial, before.insertNew? ((Entries.inRange_table _).mpr inRange.current) there⟩
  · obtain ⟨⟨answer, changed⟩, visited, rfl⟩ := Option.map_eq_some_iff.mp closes
    refine (Entries.InRange.visit? (fun _ => True) ?_ inRange.finished visited).2
    intro entries next answer before changes
    split at changes
    · rename_i elements found
      cases changes
      have all := (Entries.inRange_tables _).mp (before.lookup found)
      exact ⟨trivial, before.replace ((Entries.inRange_tables _).mpr
        (List.forall_mem_append.mpr ⟨all, List.forall_mem_singleton.mpr inRange.current⟩))⟩
    · contradiction

theorem InRange.openTable? (inRange : layout.InRange)
    (opened : layout.openTable? path key = some after) : after.InRange := by
  obtain ⟨closed, closes, opened⟩ := Option.bind_eq_some_iff.mp opened
  obtain ⟨⟨current, finished⟩, visited, done⟩ := Option.bind_eq_some_iff.mp opened
  cases done
  have both := Entries.InRange.visit? Entries.InRange ?_ (inRange.close? closes) visited
  · exact ⟨both.2, both.1⟩
  intro entries next answer before changes
  split at changes
  · cases changes
    exact ⟨List.forall_mem_nil _, before⟩
  · rename_i inner found
    cases changes
    refine ⟨(Entries.inRange_table _).mp (before.lookup found), fun entry present => ?_⟩
    exact before entry (List.mem_filter.mp present).1
  · contradiction

theorem InRange.openElement? (inRange : layout.InRange)
    (opened : layout.openElement? path key = some after) : after.InRange := by
  obtain ⟨closed, closes, opened⟩ := Option.bind_eq_some_iff.mp opened
  obtain ⟨⟨answer, finished⟩, visited, done⟩ := Option.bind_eq_some_iff.mp opened
  cases done
  refine ⟨(Entries.InRange.visit? (fun _ => True) ?_ (inRange.close? closes) visited).2,
    List.forall_mem_nil _⟩
  intro entries next answer before changes
  split at changes
  · cases changes
    exact ⟨trivial, before.concat ((Entries.inRange_tables _).mpr (List.forall_mem_nil _))⟩
  · cases changes
    exact ⟨trivial, before⟩
  · contradiction

theorem InRange.assign? (inRange : layout.InRange) (fits : value.InRange)
    (assigned : layout.assign? path key value = some after) : after.InRange := by
  obtain ⟨current, there, done⟩ := Option.bind_eq_some_iff.mp assigned
  cases done
  exact ⟨inRange.finished, inRange.current.assign? fits there⟩

end Layout

/-! ### Values -/

/-- What a scanner reads is in range. -/
def ReadsInRange (read : Scanner Value) : Prop :=
  ∀ {text rest : List Char} {value : Value}, read text = some (value, rest) → value.InRange

namespace Numeral

theorem inRange_integer? {number : Int} (fits : integer? number = some value) : value.InRange := by
  unfold integer? at fits
  split at fits
  · rename_i bounds
    cases fits
    exact .integer number bounds.1 bounds.2
  · contradiction

theorem inRange_float? {negative : Bool} {whole fraction : List Char} {exponent : Int}
    (fits : float? negative whole fraction exponent = some value) : value.InRange := by
  unfold float? at fits
  split at fits
  · contradiction
  · cases fits
    exact .float _

theorem inRange_readRadix? {base : Nat} {isDigit : Char → Bool}
    (read : readRadix? base isDigit text = some (value, rest)) : value.InRange := by
  obtain ⟨⟨digits, remaining⟩, -, read⟩ := Option.bind_eq_some_iff.mp read
  obtain ⟨integer, fits, done⟩ := Option.bind_eq_some_iff.mp read
  cases done
  exact inRange_integer? fits

theorem inRange_readDecimal? {negative : Bool}
    (read : readDecimal? negative text = some (value, rest)) : value.InRange := by
  have float : ∀ {whole fraction remaining : List Char} {exponent : Int},
      ((float? negative whole fraction exponent).bind fun value => some (value, remaining)) =
        some (value, rest) → value.InRange := by
    intro whole fraction remaining exponent read
    obtain ⟨number, fits, done⟩ := Option.bind_eq_some_iff.mp read
    cases done
    exact inRange_float? fits
  obtain ⟨⟨whole, remaining⟩, -, read⟩ := Option.bind_eq_some_iff.mp read
  dsimp only at read
  split at read
  · obtain ⟨⟨fraction, remaining⟩, -, read⟩ := Option.bind_eq_some_iff.mp read
    dsimp only at read
    split at read
    · obtain ⟨⟨exponent, remaining⟩, -, read⟩ := Option.bind_eq_some_iff.mp read
      exact float read
    · obtain ⟨⟨exponent, remaining⟩, -, read⟩ := Option.bind_eq_some_iff.mp read
      exact float read
    · exact float read
  · obtain ⟨⟨exponent, remaining⟩, -, read⟩ := Option.bind_eq_some_iff.mp read
    exact float read
  · obtain ⟨⟨exponent, remaining⟩, -, read⟩ := Option.bind_eq_some_iff.mp read
    exact float read
  · obtain ⟨number, fits, done⟩ := Option.bind_eq_some_iff.mp read
    cases done
    exact inRange_integer? fits

theorem inRange_readSpecialFloat? : ReadsInRange readSpecialFloat? := by
  intro text rest value read
  unfold readSpecialFloat? at read
  split at read
  · cases read
    exact .float _
  · cases read
    exact .float _
  · contradiction

theorem inRange_readNumeral? : ReadsInRange readNumeral? := by
  intro text rest value read
  unfold readNumeral? at read
  split at read
  · obtain ⟨remaining, -, done⟩ := Option.map_eq_some_iff.mp read
    cases done
    exact .moment _
  · split at read
    · obtain ⟨remaining, -, done⟩ := Option.map_eq_some_iff.mp read
      cases done
      exact .moment _
    · split at read
      · exact inRange_readRadix? read
      · exact inRange_readRadix? read
      · exact inRange_readRadix? read
      · exact (Option.or_eq_some_iff.mp read).elim inRange_readSpecialFloat?
          fun decimal => inRange_readDecimal? decimal.2
      · exact (Option.or_eq_some_iff.mp read).elim inRange_readSpecialFloat?
          fun decimal => inRange_readDecimal? decimal.2
      · exact inRange_readDecimal? read

end Numeral

theorem inRange_readItems? {read : Scanner Value} (each : ReadsInRange read) {fuel : Nat}
    {items : List Value} (done : readItems? read fuel text = some (items, rest)) :
    ∀ item ∈ items, item.InRange := by
  induction fuel generalizing text items with
  | zero => contradiction
  | succ fuel ih =>
    rw [readItems?] at done
    split at done
    · cases done
      exact List.forall_mem_nil _
    · obtain ⟨⟨item, remaining⟩, first, done⟩ := Option.bind_eq_some_iff.mp done
      dsimp only at done
      split at done
      · obtain ⟨⟨others, remaining⟩, more, done⟩ := Option.bind_eq_some_iff.mp done
        cases done
        exact List.forall_mem_cons.mpr ⟨each first, ih more⟩
      · cases done
        exact List.forall_mem_singleton.mpr (each first)
      · contradiction

theorem inRange_readPair? {read : Scanner Value} (each : ReadsInRange read)
    (done : readPair? read text = some ((path, key, value), rest)) : value.InRange := by
  obtain ⟨⟨place, remaining⟩, -, done⟩ := Option.bind_eq_some_iff.mp done
  dsimp only at done
  split at done
  · obtain ⟨⟨item, remaining⟩, first, done⟩ := Option.bind_eq_some_iff.mp done
    cases done
    exact each first
  · contradiction

theorem inRange_readPairs? {read : Scanner Value} (each : ReadsInRange read) {fuel : Nat}
    (inRange : entries.InRange) (done : readPairs? read fuel entries text = some (next, rest)) :
    next.InRange := by
  induction fuel generalizing text entries with
  | zero => contradiction
  | succ fuel ih =>
    obtain ⟨⟨⟨path, key, item⟩, remaining⟩, pair, done⟩ := Option.bind_eq_some_iff.mp done
    obtain ⟨middle, assigned, done⟩ := Option.bind_eq_some_iff.mp done
    have between := inRange.assign? (inRange_readPair? each pair) assigned
    split at done
    · exact ih between done
    · cases done
      exact between
    · contradiction

theorem inRange_readInlineTable? {read : Scanner Value} (each : ReadsInRange read) :
    ReadsInRange (readInlineTable? read) := by
  intro text rest value done
  unfold readInlineTable? at done
  split at done
  · cases done
    exact .table [] (List.forall_mem_nil _)
  · obtain ⟨⟨entries, remaining⟩, pairs, done⟩ := Option.bind_eq_some_iff.mp done
    cases done
    exact .table _ (Entries.inRange_finish
      (inRange_readPairs? each (List.forall_mem_nil _) pairs))

/-- A value is in range if those that may lie within it are. -/
theorem inRange_of_inner {nesting : Nat}
    (inner : ∀ less, nesting = less + 1 → ReadsInRange (readValue? less)) :
    ReadsInRange (readValue? nesting) := by
  intro text rest value read
  unfold readValue? at read
  split at read
  · contradiction
  · rename_i first others
    split at read
    · obtain ⟨⟨content, remaining⟩, -, done⟩ := Option.map_eq_some_iff.mp read
      cases done
      exact .text _
    · split at read
      · split at read
        · contradiction
        · obtain ⟨⟨items, remaining⟩, within, done⟩ := Option.map_eq_some_iff.mp read
          cases done
          exact .array _ (inRange_readItems? (inner _ rfl) within)
      · split at read
        · split at read
          · contradiction
          · exact inRange_readInlineTable? (inner _ rfl) read
        · split at read
          · split at read
            · cases read
              exact .boolean true
            · contradiction
          · split at read
            · split at read
              · cases read
                exact .boolean false
              · contradiction
            · split at read
              · exact Numeral.inRange_readSpecialFloat? read
              · split at read
                · exact Numeral.inRange_readNumeral? read
                · contradiction

theorem inRange_readValue? (nesting : Nat) : ReadsInRange (readValue? nesting) := by
  induction nesting with
  | zero =>
    refine inRange_of_inner fun less same => ?_
    contradiction
  | succ nesting ih =>
    refine inRange_of_inner fun less same => ?_
    cases same
    exact ih

/-! ### Documents -/

variable {layout after : Layout}

theorem inRange_readHeader? (inRange : layout.InRange)
    (read : readHeader? layout text = some (after, rest)) : after.InRange := by
  unfold readHeader? at read
  split at read
  all_goals
    obtain ⟨⟨place, remaining⟩, -, read⟩ := Option.bind_eq_some_iff.mp read
    dsimp only at read
    split at read
    · obtain ⟨opened, there, done⟩ := Option.bind_eq_some_iff.mp read
      cases done
      first
        | exact inRange.openElement? there
        | exact inRange.openTable? there
    · contradiction

theorem inRange_readStatement? (inRange : layout.InRange)
    (read : readStatement? layout text = some (after, rest)) : after.InRange := by
  unfold readStatement? at read
  split at read
  · exact inRange_readHeader? inRange read
  · obtain ⟨⟨⟨path, key, value⟩, remaining⟩, pair, read⟩ := Option.bind_eq_some_iff.mp read
    obtain ⟨assigned, there, done⟩ := Option.bind_eq_some_iff.mp read
    cases done
    exact inRange.assign? (inRange_readPair? (inRange_readValue? maxNesting) pair) there

theorem inRange_readStatements? {fuel : Nat} (inRange : layout.InRange)
    (read : readStatements? fuel layout text = some after) : after.InRange := by
  induction fuel generalizing layout text with
  | zero => contradiction
  | succ fuel ih =>
    rw [readStatements?] at read
    split at read
    · cases read
      exact inRange
    · split at read
      · split at read
        · exact ih inRange read
        · contradiction
      · obtain ⟨⟨next, remaining⟩, statement, read⟩ := Option.bind_eq_some_iff.mp read
        obtain ⟨line, -, read⟩ := Option.bind_eq_some_iff.mp read
        exact ih (inRange_readStatement? inRange statement) read

/-- Every integer in a document that was read fits. -/
theorem inRange_parse? {text : String} {document : Document}
    (parsed : parse? text = some document) : ∀ entry ∈ document, entry.2.InRange := by
  obtain ⟨layout, read, finished⟩ := Option.bind_eq_some_iff.mp parsed
  obtain ⟨closed, closes, rfl⟩ := Option.map_eq_some_iff.mp finished
  exact Entries.inRange_finish
    ((inRange_readStatements? Layout.inRange_start read).close? closes)

end BoundedIngest.Toml
