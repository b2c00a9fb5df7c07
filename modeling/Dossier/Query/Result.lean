import Dossier.Document.Json
import Dossier.Query.Filter

/-!
# Running a query

A query filters the positions of the documents of a registry, sorts those that are left and cuts
out a page. Documents that are equal in the sort key keep their order, in both directions. The time
that a query takes is read from a clock, whose reading is given to it.
-/

namespace Dossier.Query

open Json

/-- Compares two documents by a sort key. Titles and statuses are compared in lower case. -/
def SortField.compare (field : SortField) (a b : Document) : Ordering :=
  match field with
  | .created => Ord.compare a.created b.created
  | .updated => Ord.compare a.updated b.updated
  | .title => Ord.compare (Text.lower a.title) (Text.lower b.title)
  | .type => Ord.compare a.type b.type
  | .status => Ord.compare (Text.lower a.status.name) (Text.lower b.status.name)
  | .relationships => Ord.compare a.links.length b.links.length

/-- Whether a document may stand before another. -/
def SortOrder.allows (order : SortOrder) (field : SortField) (a b : Document) : Bool :=
  match order with
  | .ascending => (field.compare a b).isLE
  | .descending => (field.compare a b).isGE

/-- Positions in the order that the options ask for. -/
def Engine.sorted (e : Engine) (o : Options) (positions : List e.Position) : List e.Position :=
  match o.sortBy with
  | none => positions
  | some field =>
    positions.mergeSort fun i j => o.sortOrder.allows field (e.document i) (e.document j)

namespace Options

/-- The page that the options ask for. -/
def page {α : Type} (o : Options) (sorted : List α) : List α :=
  let rest := sorted.drop o.offset
  match o.limit with
  | none => rest
  | some n => rest.take n

/-- A document as the options show it. -/
def shown (o : Options) (doc : Document) : Document :=
  if o.includeContent then doc else doc.withoutContent

end Options

/-- A hint on how to ask better. -/
inductive Suggestion where
  | removeFilters
  | checkTypes
  | addFilters
  deriving DecidableEq, Repr

/-- The wording of a hint. -/
def Suggestion.text : Suggestion → String
  | removeFilters => "Try removing some filters to get more results"
  | checkTypes => "Check document type spellings (MSN, VSN, STR, etc.)"
  | addFilters => "Consider adding more specific filters to narrow results"

/-- The hints on a number of matches. -/
def suggest (threshold total : Nat) : List Suggestion :=
  (if total == 0 then [.removeFilters, .checkTypes] else []) ++
  (if total > threshold then [.addFilters] else [])

/-- The answer to a query: a page of documents, the number of all matches, the milliseconds that
the query took, the filters that were applied, and hints. -/
structure Result where
  documents : List Document
  total : Nat
  milliseconds : Nat
  filters : List AppliedFilter
  suggestions : List Suggestion

/-- Runs a query that takes some milliseconds. -/
def Engine.run (e : Engine) (o : Options) (milliseconds : Nat) : Result :=
  let p := e.narrowed o
  let positions := e.sorted o p.positions
  { documents := (o.page positions).map fun i => o.shown (e.document i)
    total := positions.length
    milliseconds
    filters := p.applied
    suggestions := suggest e.registry.suggestionThreshold positions.length }

/-- Runs a query on a registry. It takes some milliseconds. -/
def run (r : Registry) (o : Options) (milliseconds : Nat) : Result :=
  (Engine.of r).run o milliseconds

/-- An applied filter as an object. -/
def AppliedFilter.toJson (f : AppliedFilter) : Value :=
  .object [("name", .string f.name), ("value", .string f.value)]

/-- An answer as an object. -/
def Result.toJson (r : Result) : Value :=
  .object
    [("documents", .array (r.documents.map Document.toJson)), ("totalCount", .int r.total),
      ("executionTimeMs", .int r.milliseconds),
      ("appliedFilters", .array (r.filters.map AppliedFilter.toJson)),
      ("suggestions", .strings (r.suggestions.map Suggestion.text))]

end Dossier.Query
