import Dossier.Json.Value

/-!
# Tables under construction

A table grows by what the lines of a text say, one after another. A table may be named in three
ways: by a header of its own, by the header of a table in it, and by a dotted key. What may be
added to it later depends on the way, and no key is set twice; an addition that is not allowed has
no result.
-/

namespace Dossier.Toml

open Json (Value Members)

/-- How a table came to be named. -/
inductive Origin where
  | header
  | implied
  | dotted
  deriving DecidableEq, Repr

/-- What a key is set to: a closed value, a table, or a list of tables with the last one first. -/
inductive Node where
  | value (v : Value)
  | table (origin : Origin) (entries : List (String × Node))
  | tables (items : List (List (String × Node)))

/-- The entries of a table, in the order in which they were set. -/
abbrev Entries := List (String × Node)

namespace Entries

/-- The entries with one of them set anew. -/
def replace (key : String) (node : Node) (es : Entries) : Entries :=
  es.map fun e => if e.1 == key then (key, node) else e

/-- The entries with a value set at the end of a dotted key. The tables on the way must not have a
header of their own, and the last of them must come from dotted keys alone. -/
def set (v : Value) : List String → Entries → Option Entries
  | [], _ => none
  | [key], es =>
    match es.lookup key with
    | none => some (es ++ [(key, .value v)])
    | some _ => none
  | key :: rest, es =>
    match es.lookup key with
    | none => do return es ++ [(key, .table .dotted (← set v rest []))]
    | some (.table .header _) | some (.value _) => none
    | some (.table origin inner) =>
      if rest.length == 1 && origin != .dotted then none
      else do return replace key (.table origin (← set v rest inner)) es
    | some (.tables []) => none
    | some (.tables (last :: earlier)) =>
      if rest.length == 1 then none
      else do return replace key (.tables ((← set v rest last) :: earlier)) es

/-- Applies `change` to the table that the keys of a header lead to. Of a list of tables the last
one is meant, and tables on the way are made where there are none. -/
def within (change : Entries → Option Entries) : List String → Entries → Option Entries
  | [], es => change es
  | key :: rest, es =>
    match es.lookup key with
    | none => do return es ++ [(key, .table .implied (← within change rest []))]
    | some (.table origin inner) => do
      return replace key (.table origin (← within change rest inner)) es
    | some (.tables (last :: earlier)) => do
      return replace key (.tables ((← within change rest last) :: earlier)) es
    | some (.tables []) | some (.value _) => none

/-- The entries with the table of a header. It may have been implied before, but not named. -/
def openTable (key : String) (es : Entries) : Option Entries :=
  match es.lookup key with
  | none => some (es ++ [(key, .table .header [])])
  | some (.table .implied inner) => some (replace key (.table .header inner) es)
  | some _ => none

/-- The entries with one more table in a list of tables. -/
def addTable (key : String) (es : Entries) : Option Entries :=
  match es.lookup key with
  | none => some (es ++ [(key, .tables [[]])])
  | some (.tables items) => some (replace key (.tables ([] :: items)) es)
  | some _ => none

end Entries

mutual

/-- The value of a node. -/
def Node.toValue : Node → Value
  | .value v => v
  | .table _ entries => .object (membersOf [] entries)
  | .tables items => .array (valuesOf [] items)

/-- The members of an object, put among those of `done`. -/
def membersOf (done : Members) : List (String × Node) → Members
  | [] => done
  | (key, node) :: rest => membersOf (done.put key node.toValue) rest

/-- The values of tables, put in front of those of `done`. -/
def valuesOf (done : List Value) : List (List (String × Node)) → List Value
  | [] => done
  | entries :: rest => valuesOf (.object (membersOf [] entries) :: done) rest

end

/-- The value of a table. -/
def Entries.toValue (es : Entries) : Value := .object (membersOf [] es)

end Dossier.Toml
