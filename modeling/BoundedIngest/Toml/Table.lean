/-
Module: BoundedIngest.Toml.Table
Purpose: Which tables a document may define, extend and reopen.
Main exports:
  Origin, Item, Entries, Layout, Layout.openTable?, Layout.openElement?, Layout.assign?,
  Layout.document?
-/
import BoundedIngest.Toml.Value

namespace BoundedIngest.Toml

/-- How a table came to be.  A header may be given once to a table that was so far
only passed through by other headers; dotted keys extend only tables that dotted keys
made. -/
inductive Origin where
  /-- It has its own header, or is the outermost table. -/
  | header
  /-- It lies on the way of another header. -/
  | path
  /-- It lies on the way of a dotted key. -/
  | dotted
deriving Repr, DecidableEq

/-- A named place of a document under construction. -/
inductive Item where
  | value (value : Value)
  | table (origin : Origin) (entries : List (String × Item))
  /-- An array of tables, which grows by headers in double brackets. -/
  | tables (elements : List (List (String × Item)))

/-- The entries of a table under construction. -/
abbrev Entries := List (String × Item)

mutual

/-- The finished value of a place. -/
def Item.finish : Item → Value
  | .value value => value
  | .table _ entries => .table (finishEntries entries)
  | .tables elements => .array (finishElements elements)

def finishEntries : List (String × Item) → List (String × Value)
  | [] => []
  | (key, item) :: rest => (key, item.finish) :: finishEntries rest

def finishElements : List (List (String × Item)) → List Value
  | [] => []
  | entries :: rest => .table (finishEntries entries) :: finishElements rest

end

namespace Entries

/-- Put another item in the place of a key that is there. -/
def replace (entries : Entries) (key : String) (item : Item) : Entries :=
  entries.map fun entry => if entry.1 = key then (key, item) else entry

/-- Add a key that is not there. -/
def insertNew? (entries : Entries) (key : String) (item : Item) : Option Entries :=
  if (entries.lookup key).isSome then none else some (entries ++ [(key, item)])

/-- Give a value to a key, reached through the tables of a dotted path. -/
def assign? (key : String) (value : Value) : List String → Entries → Option Entries
  | [], entries => entries.insertNew? key (.value value)
  | step :: path, entries =>
      match entries.lookup step with
      | none => do
          let inner ← assign? key value path []
          pure (entries ++ [(step, .table .dotted inner)])
      | some (.table origin inner) =>
          if origin = .header || (path.isEmpty && origin != .dotted) then none
          else do
            let inner ← assign? key value path inner
            pure (entries.replace step (.table origin inner))
      | some (.tables elements) =>
          match elements.getLast? with
          | some inner =>
              if path.isEmpty then none
              else do
                let inner ← assign? key value path inner
                pure (entries.replace step (.tables (elements.dropLast ++ [inner])))
          | none => none
      | some (.value _) => none

/-- Change the entries that a header's path leads to.  Tables that are missing on the
way are made; an array of tables is entered at its last element. -/
def visit? {β : Type} (change : Entries → Option (β × Entries)) :
    List String → Entries → Option (β × Entries)
  | [], entries => change entries
  | step :: path, entries =>
      match entries.lookup step with
      | none => do
          let (answer, inner) ← visit? change path []
          pure (answer, entries ++ [(step, .table .path inner)])
      | some (.table origin inner) => do
          let (answer, inner) ← visit? change path inner
          pure (answer, entries.replace step (.table origin inner))
      | some (.tables elements) =>
          match elements.getLast? with
          | some inner => do
              let (answer, inner) ← visit? change path inner
              pure (answer, entries.replace step (.tables (elements.dropLast ++ [inner])))
          | none => none
      | some (.value _) => none

end Entries

/-- Where the table that is being filled belongs. -/
inductive Place where
  | outermost
  | table (path : List String) (key : String)
  | element (path : List String) (key : String)
deriving Repr, DecidableEq

/-- A document under construction: everything before the table being filled, that
table, and where it belongs. -/
structure Layout where
  finished : Entries := []
  current : Entries := []
  place : Place := .outermost

namespace Layout

/-- Put the table being filled where it belongs. -/
def close? (layout : Layout) : Option Entries :=
  match layout.place with
  | .outermost => some layout.current
  | .table path key =>
      (Entries.visit? (fun entries =>
        (entries.insertNew? key (.table .header layout.current)).map ((), ·))
        path layout.finished).map Prod.snd
  | .element path key =>
      (Entries.visit? (fun entries =>
        match entries.lookup key with
        | some (.tables elements) =>
            some ((), entries.replace key (.tables (elements ++ [layout.current])))
        | _ => none) path layout.finished).map Prod.snd

/-- A header starts a table.  One that other headers passed through is taken out and
filled further; any other that is there already is a fault. -/
def openTable? (layout : Layout) (path : List String) (key : String) : Option Layout := do
  let closed ← layout.close?
  let (current, finished) ← Entries.visit? (fun entries =>
    match entries.lookup key with
    | none => some ([], entries)
    | some (.table .path inner) => some (inner, entries.filter (·.1 != key))
    | _ => none) path closed
  pure { finished, current, place := .table path key }

/-- A header in double brackets starts one more element of an array of tables. -/
def openElement? (layout : Layout) (path : List String) (key : String) : Option Layout := do
  let closed ← layout.close?
  let ((), finished) ← Entries.visit? (fun entries =>
    match entries.lookup key with
    | none => some ((), entries ++ [(key, .tables [])])
    | some (.tables _) => some ((), entries)
    | _ => none) path closed
  pure { finished, current := [], place := .element path key }

/-- Give a value to a key of the table being filled. -/
def assign? (layout : Layout) (path : List String) (key : String) (value : Value) :
    Option Layout := do
  let current ← layout.current.assign? key value path
  pure { layout with current }

/-- The finished document. -/
def document? (layout : Layout) : Option Document := layout.close?.map finishEntries

end Layout

end BoundedIngest.Toml
