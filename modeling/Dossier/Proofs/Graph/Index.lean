import Mathlib.Data.List.Nodup
import Mathlib.Data.List.Perm.Basic
import Dossier.Graph.Index
import Dossier.Proofs.Dependency.Dependents

/-!
# Laws of indexes

An index that is filled in one pass lists under every id the positions at which a look through all
documents finds it, and none of them twice. So the referrers and the neighbours of a document that
are read off an index are those at the positions where they stand (`referrers_perm`,
`neighbours_perm`).
-/

namespace Dossier.Graph

variable {docs : List Document} {doc : Document} {holds : Document → Bool} {id entered : String}
  {position start p : Nat}

/-! ## Positions -/

/-- The positions of the documents of which something holds. -/
def positionsWhere (docs : List Document) (holds : Document → Bool) : List Nat :=
  (docs.zipIdx.filter fun (doc, _) => holds doc).map fun (_, position) => position

/-- A position is one where something holds if it holds of the document there. -/
theorem mem_positionsWhere :
    p ∈ positionsWhere docs holds ↔ ∃ doc, docs[p]? = some doc ∧ holds doc = true := by
  simp only [positionsWhere, List.mem_map, List.mem_filter, Prod.exists, exists_eq_right,
    List.mem_zipIdx_iff_getElem?]

/-- No position is listed twice. -/
theorem nodup_positionsWhere (docs : List Document) (holds : Document → Bool) :
    (positionsWhere docs holds).Nodup := by
  have hnd : (docs.zipIdx.map Prod.snd).Nodup := by
    rw [List.zipIdx_map_snd]
    exact List.nodup_range'
  exact hnd.sublist (List.filter_sublist.map Prod.snd)

/-! ## Postings -/

namespace Postings

variable {ps : Postings} {ids : List String}

/-- Positions are listed under the id of the first entry, and under others as in the rest. -/
theorem under_cons (k : String) (listed : List Nat) (rest : Postings) (id : String) :
    under ((k, listed) :: rest) id = if id = k then listed else rest.under id := by
  rw [under, List.lookup_cons]
  by_cases h : id = k
  · simp [h]
  · simp [h, beq_eq_false_iff_ne.2 h, under]

/-- A position is listed under the id that it is entered for, once, and nothing else changes. -/
theorem under_enter (ps : Postings) (position : Nat) (entered id : String) :
    (ps.enter position entered).under id =
      if id = entered ∧ position ∉ ps.under id then ps.under id ++ [position]
      else ps.under id := by
  induction ps with
  | nil =>
    rw [enter, under_cons]
    by_cases h : id = entered <;> simp [h, under]
  | cons first rest ih =>
    obtain ⟨k, listed⟩ := first
    rw [enter]
    split
    case isTrue hk =>
      obtain rfl := beq_iff_eq.1 hk
      rw [under_cons, under_cons]
      by_cases hid : id = k
      · by_cases hlisted : position ∈ listed <;> simp [hid, hlisted]
      · simp [hid]
    case isFalse hk =>
      rw [under_cons, under_cons, ih]
      by_cases hid : id = k
      · have hne : id ≠ entered := fun h => hk (beq_iff_eq.2 (hid.symm.trans h))
        rw [if_pos hid, if_pos hid, if_neg fun h => hne h.1]
      · rw [if_neg hid, if_neg hid]

/-- What is listed under an id are the positions that were, and the one entered for it. -/
theorem mem_under_enter : p ∈ (ps.enter position entered).under id ↔
    p ∈ ps.under id ∨ id = entered ∧ p = position := by
  rw [under_enter]
  by_cases hid : id = entered
  · by_cases hlisted : position ∈ ps.under id
    · rw [if_neg fun h => h.2 hlisted]
      refine ⟨.inl, ?_⟩
      rintro (hmem | ⟨-, rfl⟩)
      · exact hmem
      · exact hlisted
    · simp [hid ▸ hlisted, hid]
  · simp [hid]

/-- Positions that are listed once stay so. -/
theorem nodup_under_enter (h : (ps.under id).Nodup) :
    ((ps.enter position entered).under id).Nodup := by
  rw [under_enter]
  split
  case isTrue hnew => exact List.concat_eq_append ▸ (List.nodup_concat _ _).2 ⟨hnew.2, h⟩
  case isFalse => exact h

/-- What is listed under an id are the positions that were, and the one entered for several ids if
the id is one of them. -/
theorem mem_under_enterAll : p ∈ (ps.enterAll position ids).under id ↔
    p ∈ ps.under id ∨ id ∈ ids ∧ p = position := by
  rw [enterAll]
  induction ids generalizing ps with
  | nil => simp
  | cons first rest ih =>
    rw [List.foldl_cons, ih, mem_under_enter, List.mem_cons, or_assoc, or_and_right]

/-- Positions that are listed once stay so when one is entered for several ids. -/
theorem nodup_under_enterAll (h : (ps.under id).Nodup) :
    ((ps.enterAll position ids).under id).Nodup := by
  rw [enterAll]
  induction ids generalizing ps with
  | nil => exact h
  | cons first rest ih => exact ih (nodup_under_enter h)

end Postings

/-! ## Indexes -/

namespace Index

/-- One of the listings of an index, with the ids under which it lists a document. -/
structure Listing where
  postings : Index → Postings
  ids : Document → List String
  empty_eq : postings {} = []
  enter_eq : ∀ ix position doc, postings (ix.enter position doc) =
    (postings ix).enterAll position (ids doc)

namespace Listing

/-- Documents are listed under their id. -/
def having : Listing := ⟨Index.having, fun doc => [doc.id], rfl, fun _ _ _ => rfl⟩

/-- Documents are listed under the ids that they refer to. -/
def referring : Listing := ⟨Index.referring, Document.references, rfl, fun _ _ _ => rfl⟩

/-- Documents are listed under the ids that they link to. -/
def linking : Listing := ⟨Index.linking, Document.links, rfl, fun _ _ _ => rfl⟩

variable {ix : Index} (l : Listing)

/-- A pass over documents adds to what is listed under an id the positions of those to list
there. -/
theorem mem_under_enterAll : p ∈ (l.postings (ix.enterAll start docs)).under id ↔
    p ∈ (l.postings ix).under id ∨ ∃ doc, (doc, p) ∈ docs.zipIdx start ∧ id ∈ l.ids doc := by
  induction docs generalizing ix start with
  | nil => simp [Index.enterAll]
  | cons first rest ih =>
    rw [Index.enterAll, ih, l.enter_eq, Postings.mem_under_enterAll, or_assoc]
    refine or_congr_right ?_
    simp only [List.zipIdx_cons, List.mem_cons, Prod.mk.injEq]
    constructor
    · rintro (⟨hid, rfl⟩ | ⟨doc, hdoc, hid⟩)
      · exact ⟨first, .inl ⟨rfl, rfl⟩, hid⟩
      · exact ⟨doc, .inr hdoc, hid⟩
    · rintro ⟨doc, ⟨rfl, rfl⟩ | hdoc, hid⟩
      · exact .inl ⟨hid, rfl⟩
      · exact .inr ⟨doc, hdoc, hid⟩

/-- A pass over documents lists no position twice under an id. -/
theorem nodup_under_enterAll (h : ((l.postings ix).under id).Nodup) :
    ((l.postings (ix.enterAll start docs)).under id).Nodup := by
  induction docs generalizing ix start with
  | nil => exact h
  | cons first rest ih =>
    refine ih ?_
    rw [l.enter_eq]
    exact Postings.nodup_under_enterAll h

/-- What the index of documents lists under an id are the positions of those to list there. -/
theorem under_perm (docs : List Document) (id : String) :
    ((l.postings (ofList docs)).under id).Perm
      (positionsWhere docs fun doc => (l.ids doc).contains id) := by
  have hnodup : ((l.postings (ofList docs)).under id).Nodup := by
    refine l.nodup_under_enterAll ?_
    rw [l.empty_eq]
    exact List.nodup_nil
  refine (List.perm_ext_iff_of_nodup hnodup (nodup_positionsWhere docs _)).2 fun p => ?_
  rw [mem_positionsWhere, ofList, l.mem_under_enterAll, l.empty_eq]
  simp [Postings.under, List.mem_zipIdx_iff_getElem?]

end Listing

/-! ## Referrers and neighbours -/

/-- The referrers of a document are the other positions of documents that refer to its id. -/
theorem referrers_perm (docs : List Document) (doc : Document) (position : Nat) :
    ((ofList docs).referrers doc position).Perm
      ((positionsWhere docs (·.refersTo doc.id)).filter (· != position)) :=
  (Listing.referring.under_perm docs doc.id).filter _

/-- The neighbours of a document are at the other positions at which a document links to it or has
an id that it links to. -/
theorem mem_neighbours : p ∈ (ofList docs).neighbours doc position ↔
    (p ∈ positionsWhere docs (·.links.contains doc.id) ∨
      ∃ target ∈ doc.links, p ∈ positionsWhere docs ([·.id].contains target)) ∧ p ≠ position := by
  have hlinking : p ∈ (ofList docs).linking.under doc.id ↔
      p ∈ positionsWhere docs (·.links.contains doc.id) :=
        (Listing.linking.under_perm docs doc.id).mem_iff
  have hhaving (target : String) : p ∈ (ofList docs).having.under target ↔
      p ∈ positionsWhere docs ([·.id].contains target) :=
        (Listing.having.under_perm docs target).mem_iff
  simp only [neighbours, List.mem_filter, List.mem_eraseDups, List.mem_append, List.mem_flatMap,
    bne_iff_ne, hlinking, hhaving]

/-- No neighbour is counted twice. -/
theorem nodup_neighbours (ix : Index) (doc : Document) (position : Nat) :
    (ix.neighbours doc position).Nodup :=
  (nodup_eraseDups _).filter _

end Index

/-- Whether one of two documents links to the other. -/
def areLinked (doc other : Document) : Bool :=
  other.links.contains doc.id || doc.links.contains other.id

/-- The neighbours of a document are, in some order, the other positions of documents linked with
it. -/
theorem Index.neighbours_perm (docs : List Document) (doc : Document) (position : Nat) :
    ((ofList docs).neighbours doc position).Perm
      ((positionsWhere docs (areLinked doc)).filter (· != position)) := by
  refine (List.perm_ext_iff_of_nodup (nodup_neighbours _ doc position)
    ((nodup_positionsWhere docs _).filter _)).2 fun p => ?_
  simp only [mem_neighbours, List.mem_filter, bne_iff_ne, mem_positionsWhere, areLinked,
    Bool.or_eq_true, List.contains_iff_mem, List.mem_singleton]
  refine and_congr_left fun _ => ?_
  constructor
  · rintro (⟨other, hother, hlinks⟩ | ⟨_, hlinks, other, hother, rfl⟩)
    · exact ⟨other, hother, .inl hlinks⟩
    · exact ⟨other, hother, .inr hlinks⟩
  · rintro ⟨other, hother, hlinks | hlinks⟩
    · exact .inl ⟨other, hother, hlinks⟩
    · exact .inr ⟨_, hlinks, other, hother, rfl⟩

end Dossier.Graph
