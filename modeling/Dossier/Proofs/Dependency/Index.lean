import Mathlib.Data.List.Nodup
import Mathlib.Data.List.Perm.Basic
import Dossier.Dependency.Index

/-!
# Laws of the index of documents

An index has one entry for every id, under which the first document with that id is found
(`get?_ofList`). Since no id has two entries, the order of the entries does not count
(`get?_of_perm`).
-/

namespace Dossier.Dependency

variable {docs : List Document} {doc : Document} {id target : String} {ix : Index}

/-- The ids that have a document are those of the documents. -/
theorem isSome_document?_iff : (document? docs id).isSome = true ↔ id ∈ docs.map (·.id) := by
  simp [document?, List.find?_isSome]

/-- Among entries of distinct keys the one that is found under a key is the one with that key. -/
theorem lookup_eq_some_iff_mem {α : Type} {entries : List (String × α)}
    (hnd : (entries.map (·.1)).Nodup)
    {k : String} {a : α} : entries.lookup k = some a ↔ (k, a) ∈ entries := by
  induction entries with
  | nil => simp
  | cons first rest ih =>
    obtain ⟨k', a'⟩ := first
    obtain ⟨hnot, hnd⟩ := List.nodup_cons.1 hnd
    rw [List.lookup_cons, List.mem_cons]
    by_cases hk : k = k'
    · subst hk
      have hrest : (k, a) ∉ rest := fun hmem => hnot (List.mem_map.2 ⟨_, hmem, rfl⟩)
      simp [hrest, eq_comm]
    · simp [beq_eq_false_iff_ne.2 hk, hk, ih hnd]

namespace Index

/-! ## Filling an index -/

/-- A document that is entered is found under its id unless there was one before. -/
theorem get?_enter (ix : Index) (doc : Document) (id : String) :
    (ix.enter doc).get? id = (ix.get? id).or (if id = doc.id then some doc else none) := by
  unfold enter get?
  split
  case h_1 found hfound =>
    by_cases h : id = doc.id
    · simp [h, hfound]
    · simp [h]
  case h_2 hnone =>
    rw [List.lookup_append, List.lookup_cons, List.lookup_nil]
    by_cases h : id = doc.id
    · simp [h]
    · simp [h, beq_eq_false_iff_ne.2 h]

/-- Documents that are entered are found where there was none before, the first of each id. -/
theorem get?_foldl_enter (ix : Index) (docs : List Document) (id : String) :
    Index.get? (docs.foldl enter ix) id = (ix.get? id).or (document? docs id) := by
  induction docs generalizing ix with
  | nil => simp [document?]
  | cons doc rest ih =>
    rw [List.foldl_cons, ih, get?_enter, Option.or_assoc, document?, document?, List.find?_cons]
    by_cases h : id = doc.id
    · simp [h]
    · simp [h, beq_eq_false_iff_ne.2 (Ne.symm h)]

/-- **An index finds the first document with an id.** -/
theorem get?_ofList (docs : List Document) (id : String) :
    (ofList docs).get? id = document? docs id := by
  rw [ofList, get?_foldl_enter]
  rfl

/-- No id has two entries. -/
theorem nodup_foldl_enter (docs : List Document) (h : (ix.map (·.1)).Nodup) :
    ((docs.foldl enter ix).map (·.1)).Nodup := by
  induction docs generalizing ix with
  | nil => exact h
  | cons doc rest ih =>
    refine ih ?_
    unfold enter
    split
    case h_1 => exact h
    case h_2 hnone =>
      have hnew : doc.id ∉ ix.map (·.1) := fun hmem => by
        obtain ⟨⟨_, found⟩, hentry, rfl⟩ := List.mem_map.1 hmem
        have hfound := (lookup_eq_some_iff_mem h).2 hentry
        rw [hnone] at hfound
        cases hfound
      rw [List.map_append, List.map_singleton, ← List.concat_eq_append]
      exact (List.nodup_concat _ _).2 ⟨hnew, h⟩

/-! ## An index in any order -/

section

variable (hperm : ix.Perm (ofList docs))

include hperm

/-- No id has two entries, in whichever order they come. -/
theorem nodup_of_perm : (ix.map (·.1)).Nodup :=
  (hperm.map _).nodup_iff.2 (nodup_foldl_enter docs List.nodup_nil)

/-- The entries of an index are the first documents with their ids. -/
theorem mem_iff_of_perm : (id, doc) ∈ ix ↔ document? docs id = some doc := by
  rw [← get?_ofList, get?, lookup_eq_some_iff_mem (nodup_of_perm (.refl (ofList docs)))]
  exact hperm.mem_iff

/-- What is found under an id does not depend on the order of the entries. -/
theorem get?_of_perm (id : String) : ix.get? id = document? docs id := by
  refine Option.ext fun doc => ?_
  rw [get?, lookup_eq_some_iff_mem (nodup_of_perm hperm), mem_iff_of_perm hperm]

end

end Index

end Dossier.Dependency
