import Dossier.Proofs.Query.Sort

/-!
# Pages of answers

The matches of a query are sorted, cut into pages and shown with or without their texts. None of
this changes what is found: pages of one size, put together, are the whole answer, and counts and
filters are those of the whole (`arrangement_run`).
-/

namespace Dossier.Query

/-! ## Slices -/

/-- Slices of one size, put together, are a beginning of the list. -/
theorem flatMap_slices {α : Type} (l : List α) (size count : Nat) :
    (List.range count).flatMap (fun i => (l.drop (i * size)).take size) =
      l.take (count * size) := by
  induction count with
  | zero => simp
  | succ count ih =>
    rw [List.range_succ, List.flatMap_append, ih, List.flatMap_singleton, Nat.succ_mul,
      List.take_add]

/-! ## Pages -/

/-- The documents on the page of an answer that has an offset and perhaps a limit. How long the
query takes is of no account (`run_eq_run`). -/
def pageOf (r : Registry) (o : Options) (offset : Nat) (limit : Option Nat) : List Document :=
  (run r { o with offset, limit } 0).documents

/-- The documents of an answer on one page. -/
def whole (r : Registry) (o : Options) : List Document := pageOf r o 0 none

variable (r : Registry) (o : Options)

/-- The whole answer shows the sorted matches. -/
theorem whole_eq : whole r o = (o.sorted (o.matching r.taxonomy r.documents)).map o.shown := by
  rw [whole, pageOf, run_eq, Options.matching_arranged]
  show ((o.sorted (o.matching _ _)).drop 0).map o.shown = _
  rw [List.drop_zero]

/-- With its texts, the whole answer is what the sort makes of the matches. -/
theorem whole_sorted (sortBy : Option SortField) (sortOrder : SortOrder) :
    whole r { o with sortBy, sortOrder, includeContent := true } =
      { o with sortBy, sortOrder }.sorted (o.matching r.taxonomy r.documents) := by
  rw [whole_eq, Options.matching_arranged]
  exact List.map_id'' (fun _ => rfl) _

/-- With a key, the whole answer is stably sorted by it. -/
theorem isStablySorted_whole (field : SortField) (sortOrder : SortOrder) :
    IsStablySorted (sortOrder.Follows field) (o.matching r.taxonomy r.documents)
      (whole r { o with sortBy := some field, sortOrder, includeContent := true }) := by
  rw [whole_sorted]
  exact isStablySorted_sorted (o := { o with sortBy := some field, sortOrder }) rfl _

/-- A page with a limit is a slice of the whole answer. -/
theorem pageOf_some (offset k : Nat) :
    pageOf r o offset (some k) = ((whole r o).drop offset).take k := by
  rw [whole_eq, ← List.map_drop, ← List.map_take, pageOf, run_eq, Options.matching_arranged]
  rfl

/-- The whole answer has as many documents as are counted. -/
theorem length_whole (milliseconds : Nat) : (whole r o).length = (run r o milliseconds).total := by
  rw [whole_eq, List.length_map, (o.sorted_perm _).length_eq, run_eq]

/-- Enough pages of one size, put together, are the whole answer. -/
theorem flatMap_pageOf {milliseconds k count : Nat}
    (henough : (run r o milliseconds).total ≤ count * k) :
    (List.range count).flatMap (fun i => pageOf r o (i * k) (some k)) = whole r o := by
  rw [← length_whole] at henough
  simp only [pageOf_some]
  rw [flatMap_slices, List.take_of_length_le henough]

/-- A page is full unless it reaches the end of the answer. -/
theorem length_pageOf (milliseconds offset k : Nat) :
    (pageOf r o offset (some k)).length = min k ((run r o milliseconds).total - offset) := by
  rw [pageOf_some, List.length_take, List.length_drop, length_whole r o milliseconds]

/-! ## Arrangement -/

/-- The answers to a query are arrangements of its matches. -/
structure IsArrangement (r : Registry) (o : Options) : Prop where
  /-- The time that a query takes is told by its answer and has no part in the rest of it. -/
  timeless : ∀ o' milliseconds milliseconds',
    run r o' milliseconds' = { run r o' milliseconds with milliseconds := milliseconds' }
  /-- Enough pages of one size, put together, are the whole answer. -/
  pages : ∀ milliseconds k count, (run r o milliseconds).total ≤ count * k →
    (List.range count).flatMap (fun i => pageOf r o (i * k) (some k)) = whole r o
  /-- A page is full unless it reaches the end, and past the end it is empty. -/
  length : ∀ milliseconds offset k,
    (pageOf r o offset (some k)).length = min k ((run r o milliseconds).total - offset)
  /-- The order, the page and whether texts are shown change neither the count, nor filters, nor
  hints. -/
  independent : ∀ sortBy sortOrder offset limit includeContent milliseconds milliseconds',
    let arranged := run r { o with sortBy, sortOrder, offset, limit, includeContent } milliseconds'
    let answer := run r o milliseconds
    arranged.total = answer.total ∧ arranged.filters = answer.filters ∧
      arranged.suggestions = answer.suggestions
  /-- Without a key, the whole answer shows the matches in the order of the collection. -/
  unsorted : whole r { o with sortBy := none, includeContent := true } =
    o.matching r.taxonomy r.documents
  /-- With a key, it shows them sorted. Of equal keys the order is kept, in both directions. -/
  sorted : ∀ field sortOrder, IsStablySorted (sortOrder.Follows field)
    (o.matching r.taxonomy r.documents)
    (whole r { o with sortBy := some field, sortOrder, includeContent := true })
  /-- Where texts are not shown, they are empty, and all else is the same. -/
  content : ∀ milliseconds, run r { o with includeContent := false } milliseconds =
    let full := run r { o with includeContent := true } milliseconds
    { full with documents := full.documents.map ({ · with content := "" }) }

/-- **Paging, sorting and showing texts arrange what is found.** -/
theorem arrangement_run : IsArrangement r o := by
  constructor
  case timeless => exact run_eq_run r
  case pages => exact fun milliseconds k count henough => flatMap_pageOf r o henough
  case length => exact length_pageOf r o
  case independent =>
    intro sortBy sortOrder offset limit includeContent milliseconds milliseconds'
    simp only [run_eq, Options.matching_arranged, Options.filters_arranged, and_self]
  case unsorted => exact whole_sorted r o none o.sortOrder
  case sorted => exact isStablySorted_whole r o
  case content =>
    intro milliseconds
    simp only [run_eq, Options.matching_arranged, List.map_map]
    rfl

end Dossier.Query
