import Dossier.Proofs.Query.Engine

/-!
# Laws of queries

A query selects the documents that pass all of its filters. Sorting keeps what was found, so a
query that filters by one thing only counts the documents with this thing, however it sorts them,
whichever page it shows and however long it takes.
-/

namespace Dossier.Query

variable {taxonomy : Taxonomy} {o : Options}

namespace Options

/-! ## Options with one filter -/

/-- Sorting, paging and showing texts set no filter, and neither do fields to search without a
text. -/
theorem filters_unset (searchFields : Option (List SearchField)) (sortBy : Option SortField)
    (sortOrder : SortOrder) (offset : Nat) (limit : Option Nat) (includeContent : Bool) :
    { searchFields, sortBy, sortOrder, offset, limit, includeContent : Options }.filters
      taxonomy = [] := by
  unfold filters
  simp [listFilter, valueFilter, searchTerm?]

/-- Where no filter is set, one type sets a filter by it. -/
theorem filters_type (ho : o.filters taxonomy = []) (code : String) :
    { o with types := [code] }.filters taxonomy =
      [⟨"types", joined [code], fun doc => [code].contains doc.type⟩] := by
  unfold filters at ho ⊢
  simp only [searchTerm?, fieldsSearched, List.append_eq_nil_iff] at ho ⊢
  simp only [ho]
  simp [listFilter]

/-- Where no filter is set, one domain sets a filter by it. -/
theorem filters_domain (ho : o.filters taxonomy = []) (d : Domain) :
    { o with domains := [d] }.filters taxonomy =
      [⟨"domains", joined [d.name], fun doc => [d].contains (taxonomy.domainOf doc)⟩] := by
  unfold filters at ho ⊢
  simp only [searchTerm?, fieldsSearched, List.append_eq_nil_iff] at ho ⊢
  simp only [ho]
  simp [listFilter]

/-- Where no filter is set, one status sets a filter by it. -/
theorem filters_status (ho : o.filters taxonomy = []) (status : Status) :
    { o with statuses := [status] }.filters taxonomy =
      [⟨"statuses", joined [status.name], fun doc => [status].contains doc.status⟩] := by
  unfold filters at ho ⊢
  simp only [searchTerm?, fieldsSearched, List.append_eq_nil_iff] at ho ⊢
  simp only [ho]
  simp [listFilter]

/-! ## Arrangement -/

/-- The way in which documents are sorted, paged and shown does not change the filters. -/
theorem filters_arranged (o : Options) (sortBy : Option SortField) (sortOrder : SortOrder)
    (offset : Nat) (limit : Option Nat) (includeContent : Bool) :
    { o with sortBy, sortOrder, offset, limit, includeContent }.filters taxonomy =
      o.filters taxonomy :=
  rfl

/-- The way in which documents are sorted, paged and shown does not change the matches. -/
theorem matching_arranged (o : Options) (sortBy : Option SortField) (sortOrder : SortOrder)
    (offset : Nat) (limit : Option Nat) (includeContent : Bool) (docs : List Document) :
    { o with sortBy, sortOrder, offset, limit, includeContent }.matching taxonomy docs =
      o.matching taxonomy docs := by
  rw [matching, filters_arranged, matching]

end Options

/-- All that a query finds, in the order of the collection and with its texts. How long it takes to
find it is of no account (`run_eq_run`). -/
def found (r : Registry) (o : Options) : List Document :=
  (run r { o with sortBy := none, offset := 0, limit := none, includeContent := true } 0).documents

/-- The time that a query takes is part of its answer and of nothing else in it. -/
theorem run_eq_run (r : Registry) (o : Options) (milliseconds milliseconds' : Nat) :
    run r o milliseconds' = { run r o milliseconds with milliseconds := milliseconds' } := rfl

/-- What a query finds are its matches. -/
theorem found_eq_matching (r : Registry) (o : Options) :
    found r o = o.matching r.taxonomy r.documents := by
  simp only [found, run_eq, Options.matching_arranged, Options.sorted, Options.page,
    List.drop_zero]
  exact List.map_id'' (fun _ => rfl) _

/-! ## Totals -/

variable {r : Registry}

/-- A query counts the documents that pass all filters. -/
theorem total_run (r : Registry) (o : Options) (milliseconds : Nat) :
    (run r o milliseconds).total =
    r.documents.countP fun doc => (o.filters r.taxonomy).all (·.keeps doc) := by
  rw [run_eq, o.matching_eq_filter, List.countP_eq_length_filter]

/-- A query counts what it finds. -/
theorem total_run_eq_length_found (r : Registry) (o : Options) (milliseconds : Nat) :
    (run r o milliseconds).total = (found r o).length := by
  rw [found_eq_matching, run_eq]

/-- A query with one filter by something that documents have counts the occurrences of what is
wanted. -/
theorem total_run_of_filters_eq {α : Type} [DecidableEq α] {name value : String} {f : Document → α}
    {a : α} (ho : o.filters r.taxonomy = [⟨name, value, fun doc => [a].contains (f doc)⟩])
    (milliseconds : Nat) :
    (run r o milliseconds).total = (r.documents.map f).count a := by
  rw [total_run, ho, List.count, List.countP_map]
  refine List.countP_congr fun doc _ => ?_
  simp

end Dossier.Query
