import Mathlib.Data.List.FinRange
import Dossier.Query.Result

/-!
# Positions and documents

A query handles positions and looks things up in tables. What it answers can be said of the
documents alone: the filters that are set are conditions on documents (`Options.filters`), they
apply one after another (`Options.matching`), and what is left is sorted and cut into pages
(`run_eq`).
-/

namespace Dossier.Query

/-! ## Filters as conditions on documents -/

/-- A filter that is set: a name, the value it was given, and the documents it keeps. -/
structure Filter where
  name : String
  value : String
  keeps : Document → Bool

/-- A filter as it is listed. -/
def Filter.listed (f : Filter) : AppliedFilter := ⟨f.name, f.value⟩

/-- A filter that is set by a list of wanted values. -/
def listFilter {α : Type} (name : String) (wanted : List α) (text : α → String)
    (keeps : Document → Bool) : List Filter :=
  if wanted.isEmpty then [] else [⟨name, joined (wanted.map text), keeps⟩]

/-- A filter that is set by one value. -/
def valueFilter {α : Type} (name : String) (wanted : Option α) (text : α → String)
    (keeps : α → Document → Bool) : List Filter :=
  match wanted with
  | none => []
  | some a => [⟨name, text a, keeps a⟩]

/-- Whether a term occurs in one of the fields, letter case aside. -/
def containsText (fields : List SearchField) (term : String) (doc : Document) : Bool :=
  fields.any fun field => (SearchText.of doc).holds field (Text.lower term)

namespace Options

/-- The filters that are set, in the order in which they apply. -/
def filters (o : Options) (taxonomy : Taxonomy) : List Filter :=
  listFilter "types" o.types id (fun doc => o.types.contains doc.type) ++
  listFilter "domains" o.domains Domain.name
    (fun doc => o.domains.contains (taxonomy.domainOf doc)) ++
  listFilter "statuses" o.statuses Status.name (fun doc => o.statuses.contains doc.status) ++
  listFilter "priorities" o.priorities Priority.name
    (fun doc => doc.priority.any o.priorities.contains) ++
  listFilter "depends on" o.dependsOn id (fun doc => intersects doc.dependsOn o.dependsOn) ++
  listFilter "enables" o.enables id (fun doc => intersects doc.enables o.enables) ++
  listFilter "related to" o.relatedTo id (fun doc => intersects doc.related o.relatedTo) ++
  listFilter "conflicts with" o.conflictsWith id
    (fun doc => intersects doc.conflictsWith o.conflictsWith) ++
  valueFilter "created after" o.createdAfter id (fun bound doc => bound ≤ doc.created) ++
  valueFilter "created before" o.createdBefore id (fun bound doc => doc.created ≤ bound) ++
  valueFilter "updated after" o.updatedAfter id (fun bound doc => bound ≤ doc.updated) ++
  valueFilter "updated before" o.updatedBefore id (fun bound doc => doc.updated ≤ bound) ++
  valueFilter "owner" o.owner id (fun owner doc => doc.owner == owner) ++
  listFilter "stakeholders" o.stakeholders id
    (fun doc => intersects doc.stakeholders o.stakeholders) ++
  listFilter "reviewers" o.reviewers id (fun doc => intersects doc.reviewers o.reviewers) ++
  valueFilter "has success criteria" o.hasSuccessCriteria truthText
    (fun wanted doc => doc.hasSuccessCriteria == wanted) ++
  valueFilter "has risks" o.hasRisks truthText (fun wanted doc => !doc.risks.isEmpty == wanted) ++
  valueFilter "has metrics" o.hasMetrics truthText
    (fun wanted doc => !doc.metrics.isEmpty == wanted) ++
  valueFilter "text search" o.searchTerm? id
    (fun term doc => containsText o.fieldsSearched term doc)

/-- The documents that pass all filters, which apply one after another. -/
def matching (o : Options) (taxonomy : Taxonomy) (docs : List Document) : List Document :=
  (o.filters taxonomy).foldl (fun kept f => kept.filter f.keeps) docs

/-- Documents in the order that the options ask for. -/
def sorted (o : Options) (docs : List Document) : List Document :=
  match o.sortBy with
  | none => docs
  | some field => docs.mergeSort (o.sortOrder.allows field)

/-- Sorting keeps the documents. -/
theorem sorted_perm (o : Options) (docs : List Document) : (o.sorted docs).Perm docs := by
  rw [sorted]
  split
  · exact .refl docs
  · exact List.mergeSort_perm docs _

/-- The matches are the documents that pass all filters. -/
theorem matching_eq_filter (o : Options) (taxonomy : Taxonomy) (docs : List Document) :
    o.matching taxonomy docs = docs.filter fun doc => (o.filters taxonomy).all (·.keeps doc) := by
  rw [matching]
  induction o.filters taxonomy generalizing docs with
  | nil => exact (List.filter_eq_self.2 fun _ _ => rfl).symm
  | cons f rest ih =>
    rw [List.foldl_cons, ih, List.filter_filter]
    simp only [List.all_cons, Bool.and_comm]

end Options

variable {r : Registry} {e : Engine} {filters : List Filter}

/-! ## The tables -/

namespace Engine

/-- The engine of a registry has its documents. -/
@[simp] theorem registry_of (r : Registry) : (of r).registry = r := rfl

/-- The table of texts has at a position those of the document there. -/
theorem text_of (i : (of r).Position) : (of r).text i = SearchText.of ((of r).document i) :=
  List.getElem_map SearchText.of

/-- The table of domains has at a position that of the document there. -/
theorem domain_of (i : (of r).Position) :
    (of r).domain i = r.taxonomy.domainOf ((of r).document i) :=
  List.getElem_map r.taxonomy.domainOf

/-- At all positions, one after another, are the documents of the collection. -/
theorem map_document_positions (e : Engine) : e.positions.map e.document = e.registry.documents :=
  List.map_get_finRange e.registry.documents

/-- Positions are sorted as the documents at them. -/
theorem map_document_sorted (o : Options) (positions : List e.Position) :
    (e.sorted o positions).map e.document = o.sorted (positions.map e.document) := by
  rw [sorted, Options.sorted]
  cases o.sortBy with
  | none => rfl
  | some field => exact List.map_mergeSort fun _ _ _ _ => rfl

end Engine

/-! ## The stages -/

namespace Progress

/-- How far a query has come when some filters were applied. -/
def after (e : Engine) (filters : List Filter) : Progress e where
  positions := e.positions.filter fun i => filters.all (·.keeps (e.document i))
  applied := filters.map Filter.listed

@[simp] theorem positions_after (e : Engine) (filters : List Filter) :
    (after e filters).positions = e.positions.filter fun i =>
      filters.all (·.keeps (e.document i)) :=
  rfl

@[simp] theorem applied_after (e : Engine) (filters : List Filter) :
    (after e filters).applied = filters.map Filter.listed := rfl

/-- Before any filter, none was applied. -/
theorem start_eq_after (e : Engine) : start e = after e [] := by
  simp [start, after]

/-- One more filter retains positions by the documents there, and is listed after the others. -/
theorem after_singleton (f : Filter) : after e (filters ++ [f]) =
    (after e filters).apply f.name f.value fun i => f.keeps (e.document i) := by
  simp [after, apply, Filter.listed, Bool.and_comm]

/-- A list of wanted values sets one more filter, or none. -/
theorem after_listFilter {α : Type} (name : String) (wanted : List α) (text : α → String)
    (keeps : Document → Bool) : after e (filters ++ listFilter name wanted text keeps) =
      (after e filters).applyList name wanted text fun i => keeps (e.document i) := by
  rw [listFilter, applyList]
  split
  · rw [List.append_nil]
  · exact after_singleton _

/-- A wanted value sets one more filter. -/
theorem after_valueFilter {α : Type} (name : String) (wanted : Option α) (text : α → String)
    (keeps : α → Document → Bool) : after e (filters ++ valueFilter name wanted text keeps) =
      (after e filters).applyValue name wanted text fun a i => keeps a (e.document i) := by
  cases wanted with
  | none => rw [valueFilter, applyValue, List.append_nil]
  | some a => exact after_singleton _

end Progress

/-- All stages, one after another, apply the filters that are set. -/
theorem narrowed_of (r : Registry) (o : Options) :
    (Engine.of r).narrowed o = .after (.of r) (o.filters r.taxonomy) := by
  rw [Options.filters, ← List.nil_append (listFilter "types" _ _ _)]
  simp only [Progress.after_listFilter, Progress.after_valueFilter, ← Progress.start_eq_after]
  simp only [Engine.narrowed, Progress.byTypeAndDomain, Engine.domain_of, Progress.byText,
    Engine.text_of]
  rfl

/-- The documents at the positions that are left are the matches. -/
theorem map_document_narrowed (r : Registry) (o : Options) :
    ((Engine.of r).narrowed o).positions.map (Engine.of r).document =
      o.matching r.taxonomy r.documents := by
  rw [narrowed_of, Options.matching_eq_filter, Progress.positions_after]
  generalize o.filters r.taxonomy = filters
  have hdocuments := Engine.map_document_positions (.of r)
  rw [Engine.registry_of] at hdocuments
  rw [← hdocuments, List.filter_map]
  rfl

/-! ## The answer -/

/-- A page of positions is a page of the documents at them. -/
theorem Options.map_page {α β : Type} (o : Options) (f : α → β) (l : List α) :
    (o.page l).map f = o.page (l.map f) := by
  unfold page
  split <;> simp only [List.map_drop, List.map_take]

/-- **An answer in terms of documents**: the matches are sorted, counted and cut into pages, and
the filters that are set are listed. -/
theorem run_eq (r : Registry) (o : Options) (milliseconds : Nat) :
    run r o milliseconds =
      { documents := (o.page (o.sorted (o.matching r.taxonomy r.documents))).map o.shown
        total := (o.matching r.taxonomy r.documents).length
        milliseconds
        filters := (o.filters r.taxonomy).map Filter.listed
        suggestions :=
          suggest r.suggestionThreshold (o.matching r.taxonomy r.documents).length } := by
  have hsorted := Engine.map_document_sorted o ((Engine.of r).narrowed o).positions
  rw [map_document_narrowed] at hsorted
  have hlength := congrArg List.length hsorted
  rw [List.length_map, (o.sorted_perm _).length_eq] at hlength
  have hdocuments : (o.page ((Engine.of r).sorted o ((Engine.of r).narrowed o).positions)).map
      (fun i => o.shown ((Engine.of r).document i)) =
        (o.page (o.sorted (o.matching r.taxonomy r.documents))).map o.shown := by
    rw [← hsorted, ← Options.map_page, List.map_map]
    rfl
  have happlied : ((Engine.of r).narrowed o).applied =
      (o.filters r.taxonomy).map Filter.listed := by
    rw [narrowed_of, Progress.applied_after]
  rw [run, Engine.run, hdocuments, hlength, happlied, Engine.registry_of]

/-- The filters that an answer lists are those that are set. -/
theorem filters_run_eq (r : Registry) (o : Options) (milliseconds : Nat) :
    (run r o milliseconds).filters = (o.filters r.taxonomy).map Filter.listed := by
  rw [run_eq]

end Dossier.Query
