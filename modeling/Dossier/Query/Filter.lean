import Dossier.Query.Engine

/-!
# Filters of a query

Every option that narrows a query is a filter. The filters run in seven stages. Each stage takes
the positions that are left and retains those that its filters keep, and puts every filter that is
set on the list of those that were applied.
-/

namespace Dossier.Query

/-- A filter that was applied, and the value it was given. -/
structure AppliedFilter where
  name : String
  value : String
  deriving DecidableEq, Repr

/-- A list of names in one line. -/
def joined (names : List String) : String := ", ".intercalate names

/-- The text of a truth value. -/
def truthText (b : Bool) : String := if b then "true" else "false"

/-- Whether two lists share an id. -/
def intersects (ids wanted : List String) : Bool := ids.any wanted.contains

namespace Options

/-- The text searched for, unless it is empty. -/
def searchTerm? (o : Options) : Option String := o.textSearch.filter (· != "")

/-- The fields searched. -/
def fieldsSearched (o : Options) : List SearchField := o.searchFields.getD SearchField.all

end Options

/-- How far a query has come: the positions that are left, and the filters that were applied. -/
structure Progress (e : Engine) where
  positions : List e.Position
  applied : List AppliedFilter

namespace Progress

variable {e : Engine}

/-- Before any filter, all positions are left. -/
def start (e : Engine) : Progress e := ⟨e.positions, []⟩

/-- Applies a filter. -/
def apply (p : Progress e) (name value : String) (keeps : e.Position → Bool) : Progress e where
  positions := p.positions.filter keeps
  applied := p.applied ++ [⟨name, value⟩]

/-- Applies a filter that is set by a list of wanted values. -/
def applyList {α : Type} (p : Progress e) (name : String) (wanted : List α) (text : α → String)
    (keeps : e.Position → Bool) : Progress e :=
  if wanted.isEmpty then p else p.apply name (joined (wanted.map text)) keeps

/-- Applies a filter that is set by one value. -/
def applyValue {α : Type} (p : Progress e) (name : String) (wanted : Option α) (text : α → String)
    (keeps : α → e.Position → Bool) : Progress e :=
  match wanted with
  | none => p
  | some a => p.apply name (text a) (keeps a)

/-! ## Stages -/

/-- Filters by type and domain. -/
def byTypeAndDomain (o : Options) (p : Progress e) : Progress e :=
  let p := p.applyList "types" o.types id fun i => o.types.contains (e.document i).type
  p.applyList "domains" o.domains Domain.name fun i => o.domains.contains (e.domain i)

/-- Filters by status and priority. -/
def byStatusAndPriority (o : Options) (p : Progress e) : Progress e :=
  let p := p.applyList "statuses" o.statuses Status.name fun i =>
    o.statuses.contains (e.document i).status
  p.applyList "priorities" o.priorities Priority.name fun i =>
    (e.document i).priority.any o.priorities.contains

/-- What is asked of the lists of ids of a document: the name of the filter, the ids that are
wanted and the list that they are looked for in. -/
def relationships (o : Options) : List (String × List String × (Document → List String)) :=
  [("depends on", o.dependsOn, (·.dependsOn)), ("enables", o.enables, (·.enables)),
    ("related to", o.relatedTo, (·.related)),
    ("conflicts with", o.conflictsWith, (·.conflictsWith))]

/-- Filters by relationships. -/
def byRelationships (o : Options) (p : Progress e) : Progress e :=
  (relationships o).foldl (fun p (name, wanted, list) =>
    p.applyList name wanted id fun i => intersects (list (e.document i)) wanted) p

/-- Filters by dates, which are compared as texts. Bounds are inclusive. -/
def byDates (o : Options) (p : Progress e) : Progress e :=
  let p := p.applyValue "created after" o.createdAfter id fun day i => day ≤ (e.document i).created
  let p :=
    p.applyValue "created before" o.createdBefore id fun day i => (e.document i).created ≤ day
  let p := p.applyValue "updated after" o.updatedAfter id fun day i => day ≤ (e.document i).updated
  p.applyValue "updated before" o.updatedBefore id fun day i => (e.document i).updated ≤ day

/-- Filters by the people a document is about. -/
def byOwnership (o : Options) (p : Progress e) : Progress e :=
  let p := p.applyValue "owner" o.owner id fun owner i => (e.document i).owner == owner
  let p := p.applyList "stakeholders" o.stakeholders id fun i =>
    intersects (e.document i).stakeholders o.stakeholders
  p.applyList "reviewers" o.reviewers id fun i => intersects (e.document i).reviewers o.reviewers

/-- Filters by what a document says of its business. -/
def byBusinessContext (o : Options) (p : Progress e) : Progress e :=
  let p := p.applyValue "has success criteria" o.hasSuccessCriteria truthText fun wanted i =>
    (e.document i).hasSuccessCriteria == wanted
  let p := p.applyValue "has risks" o.hasRisks truthText fun wanted i =>
    !(e.document i).risks.isEmpty == wanted
  p.applyValue "has metrics" o.hasMetrics truthText fun wanted i =>
    !(e.document i).metrics.isEmpty == wanted

/-- Filters by a text, letter case aside. One of the searched fields must hold it. -/
def byText (o : Options) (p : Progress e) : Progress e :=
  p.applyValue "text search" o.searchTerm? id fun term i =>
    let term := Text.lower term
    o.fieldsSearched.any fun field => (e.text i).holds field term

end Progress

/-- The positions that pass all stages, and the filters that were applied. -/
def Engine.narrowed (e : Engine) (o : Options) : Progress e :=
  let p := (Progress.start e).byTypeAndDomain o
  let p := p.byStatusAndPriority o
  let p := p.byRelationships o
  let p := p.byDates o
  let p := p.byOwnership o
  let p := p.byBusinessContext o
  p.byText o

end Dossier.Query
