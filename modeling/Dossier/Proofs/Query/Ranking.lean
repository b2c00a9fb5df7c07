import Mathlib.Data.List.FinRange
import Dossier.Proofs.FirstOccurrences
import Dossier.Proofs.Query.Similarity

/-!
# Similarity between positions

How similar two documents are does not depend on which of them is asked about (`similarity_comm`).
Ids may repeat, so what is ranked are positions of a collection: there is one order of the
positions of the other ids, each of them once, and every limit cuts it off somewhere
(`isRanking_similar`).
-/

namespace Dossier.Query

variable {r : Registry} {id : String} {source : Document}

/-! ## Symmetry -/

/-- What two lists share they share either way. -/
theorem sharedCount_comm (a b : List String) : sharedCount a b = sharedCount b a := by
  have hperm : (a.eraseDups.filter b.contains).Perm (b.eraseDups.filter a.contains) := by
    have hnodup (l l' : List String) : (l.eraseDups.filter l'.contains).Nodup :=
      (firstOccurrences_eraseDups l).nodup.filter _
    refine (List.perm_ext_iff_of_nodup (hnodup a b) (hnodup b a)).2 fun s => ?_
    simp only [List.mem_filter, List.mem_eraseDups, List.contains_iff_mem, and_comm]
  exact hperm.length_eq

/-- Types are in one family either way. -/
theorem sameFamily_comm (taxonomy : Taxonomy) (a b : String) :
    sameFamily taxonomy a b = sameFamily taxonomy b a := by
  unfold sameFamily
  cases taxonomy.familyOf? a with
  | none => cases taxonomy.familyOf? b <;> rfl
  | some family =>
    cases taxonomy.familyOf? b with
    | none => rfl
    | some family' => exact BEq.comm

/-- **Similarity is mutual.** -/
theorem similarity_comm (taxonomy : Taxonomy) (a b : Document) :
    similarity taxonomy a b = similarity taxonomy b a := by
  have hdomain : (taxonomy.domainOf a == taxonomy.domainOf b) =
      (taxonomy.domainOf b == taxonomy.domainOf a) :=
    BEq.comm
  unfold similarity
  rw [hdomain, sameFamily_comm, sharedCount_comm a.dependsOn, sharedCount_comm a.enables,
    sharedCount_comm (contentWords a.content)]

/-! ## Positions -/

/-- The item of a position: the document there, and its similarity to another. -/
def itemAt (r : Registry) (source : Document) (p : Fin r.documents.length) : Similar :=
  ⟨similarity r.taxonomy source r.documents[p], r.documents[p]⟩

/-- An order of the positions whose ids are not the given one, each of them once, by which
documents are listed. -/
structure IsOrder (r : Registry) (id : String) (source : Document)
    (order : List (Fin r.documents.length)) : Prop where
  /-- Similarity is that to the first document with the id. -/
  found : r.documents.find? (·.id == id) = some source
  mem_iff : ∀ p, p ∈ order ↔ r.documents[p].id ≠ id
  nodup : order.Nodup
  listed : ∀ limit, similar r id limit = (order.take limit).map (itemAt r source)
  /-- A limit that is large enough leaves nothing out. -/
  whole : ∀ limit, r.documents.countP (·.id != id) ≤ limit →
    similar r id limit = order.map (itemAt r source)

/-- The items that are ranked are those of the positions of other ids. -/
theorem map_others (r : Registry) (id : String) (source : Document) :
    (r.documents.filter (·.id != id)).map
      (fun other => ⟨similarity r.taxonomy source other, other⟩) =
      ((List.finRange r.documents.length).filter fun p => r.documents[p].id != id).map
        (itemAt r source) := by
  conv_lhs => rw [← List.map_getElem_finRange r.documents]
  rw [List.filter_map, List.map_map]
  rfl

/-- For an id that there is, documents are listed by an order of the positions of the other ids. -/
theorem exists_isOrder (hsource : r.documents.find? (·.id == id) = some source) :
    ∃ order, IsOrder r id source order := by
  let others := (List.finRange r.documents.length).filter fun p => r.documents[p].id != id
  let before (p q : Fin r.documents.length) : Bool :=
    !((itemAt r source p).similarity < (itemAt r source q).similarity)
  have hperm : (others.mergeSort before).Perm others := List.mergeSort_perm _ _
  have hrank : rank r id = (others.mergeSort before).map (itemAt r source) := by
    have hsort : (others.mergeSort before).map (itemAt r source) =
        (others.map (itemAt r source)).mergeSort
        fun a b => !(a.similarity < b.similarity) := List.map_mergeSort fun _ _ _ _ => rfl
    rw [hsort, ← map_others, rank, hsource]
  have hlength : (others.mergeSort before).length = r.documents.countP (·.id != id) := by
    have hcount := congrArg List.length (map_others r id source)
    rw [List.length_map, List.length_map] at hcount
    rw [hperm.length_eq, List.countP_eq_length_filter, hcount]
  refine ⟨others.mergeSort before,
    ⟨hsource, fun p => ?_, ?_, fun limit => ?_, fun limit hlimit => ?_⟩⟩
  · rw [hperm.mem_iff, List.mem_filter, bne_iff_ne]
    exact and_iff_right (List.mem_finRange p)
  · exact hperm.nodup_iff.2 ((List.nodup_finRange _).filter _)
  · rw [similar, hrank, List.map_take]
  · rw [similar, hrank]
    exact List.take_of_length_le (by rwa [List.length_map, hlength])

/-! ## Rankings -/

/-- What rankings by similarity promise. -/
structure IsRanking (r : Registry) : Prop where
  symmetric : ∀ p q : Fin r.documents.length, similarity r.taxonomy r.documents[p] r.documents[q] =
    similarity r.taxonomy r.documents[q] r.documents[p]
  /-- A lower limit lists the first of what a higher one lists. -/
  first : ∀ id k m, k ≤ m → similar r id k = (similar r id m).take (min k (similar r id m).length)
  order : ∀ id, (∃ doc ∈ r.documents, doc.id = id) → ∃ source order, IsOrder r id source order
  other : ∀ id limit, ∀ s ∈ similar r id limit, s.document.id ≠ id
  absent : ∀ id, (∀ doc ∈ r.documents, doc.id ≠ id) → ∀ limit, similar r id limit = []

/-- **Rankings list positions, each at most once.** In every registry similarity is mutual, and all
limits cut off one order of the positions that have another id than the one asked about. -/
theorem isRanking_similar (r : Registry) : IsRanking r where
  symmetric p q := similarity_comm r.taxonomy r.documents[p] r.documents[q]
  first id k m hle := by
    simp only [similar, List.length_take, List.take_take]
    rw [List.take_eq_take_iff]
    omega
  order id hid := by
    have hfound : (r.documents.find? (·.id == id)).isSome = true :=
      List.find?_isSome.2 (by simpa using hid)
    obtain ⟨source, hsource⟩ := Option.isSome_iff_exists.1 hfound
    exact ⟨source, exists_isOrder hsource⟩
  other id limit s hs := by
    obtain ⟨-, -, -, hne, -⟩ := mem_rank_iff.1 (List.mem_of_mem_take hs)
    exact hne
  absent id hid limit := by
    have hnone : r.documents.find? (·.id == id) = none := List.find?_eq_none.2 (by simpa using hid)
    rw [similar, rank, hnone]
    exact List.take_nil

end Dossier.Query
