import Dossier.Graph.Node
import Dossier.Proofs.Graph.Index

/-!
# Laws of nodes

A node counts positions, since ids may repeat. Where they do not, a document is told by its id, and
its node follows from the documents around it, wherever they stand (`nodesOf_eq_map`).
-/

namespace Dossier.Graph

variable {taxonomy : Taxonomy} {docs : List Document} {doc other : Document} {position p : Nat}

/-! ## Documents of distinct ids -/

/-- Among documents of distinct ids, positions differ if the ids at them do. -/
theorem position_ne_iff (hnd : (docs.map (·.id)).Nodup) (hdoc : docs[position]? = some doc)
    (hother : docs[p]? = some other) : p ≠ position ↔ other.id ≠ doc.id := by
  refine not_congr ⟨?_, fun hid => ?_⟩
  · rintro rfl
    rw [Option.some.inj (hother.symm.trans hdoc)]
  · obtain ⟨hp, rfl⟩ := List.getElem?_eq_some_iff.1 hother
    obtain ⟨hposition, rfl⟩ := List.getElem?_eq_some_iff.1 hdoc
    have hp' : p < (docs.map (·.id)).length := by rwa [List.length_map]
    have hposition' : position < (docs.map (·.id)).length := by rwa [List.length_map]
    have hids : (docs.map (·.id))[p] = (docs.map (·.id))[position] := by
      rw [List.getElem_map, List.getElem_map, hid]
    exact hnd.getElem_inj_iff.1 hids

/-- Among documents of distinct ids, the other positions where something holds are as many as the
documents of other ids of which it holds. -/
theorem length_positionsWhere_ne (hnd : (docs.map (·.id)).Nodup)
    (hdoc : docs[position]? = some doc) (holds : Document → Bool) :
    ((positionsWhere docs holds).filter (· != position)).length =
      docs.countP fun other => other.id != doc.id && holds other := by
  have hcongr : ∀ x ∈ docs.zipIdx,
      (x.2 != position && holds x.1) = (x.1.id != doc.id && holds x.1) := by
    intro x hx
    have hne := position_ne_iff hnd hdoc (List.mem_zipIdx_iff_getElem?.1 hx)
    rw [Bool.eq_iff_iff]
    simp only [Bool.and_eq_true, bne_iff_ne, hne]
  calc ((positionsWhere docs holds).filter (· != position)).length
      = docs.zipIdx.countP fun x => x.2 != position && holds x.1 := by
        rw [positionsWhere, List.filter_map, List.length_map, List.filter_filter,
          List.countP_eq_length_filter]
        rfl
    _ = docs.zipIdx.countP fun x => x.1.id != doc.id && holds x.1 :=
        List.countP_congr fun x hx => by rw [hcongr x hx]
    _ = (docs.zipIdx.map (·.1)).countP fun other => other.id != doc.id && holds other := by
        rw [List.countP_map]
        rfl
    _ = docs.countP fun other => other.id != doc.id && holds other := by
        rw [List.zipIdx_map_fst]

/-- The node of a document among documents that are told apart by their ids. -/
def Node.byId (taxonomy : Taxonomy) (docs : List Document) (doc : Document) : Node where
  id := doc.id
  type := doc.type
  title := doc.title
  domain := taxonomy.domainOf doc
  status := doc.status
  priority := doc.priority
  centrality :=
    ⟨docs.countP fun other => other.id != doc.id && areLinked doc other, docs.length - 1⟩
  inDegree := docs.countP fun other => other.id != doc.id && other.refersTo doc.id
  outDegree := doc.references.length

/-- Among documents of distinct ids the node of a document is the one by its id. -/
theorem Node.of_eq_byId (hnd : (docs.map (·.id)).Nodup) (hdoc : docs[position]? = some doc) :
    Node.of taxonomy (Index.ofList docs) docs.length doc position = .byId taxonomy docs doc := by
  have hreferrers := (Index.referrers_perm docs doc position).length_eq.trans
    (length_positionsWhere_ne hnd hdoc (·.refersTo doc.id))
  have hneighbours := (Index.neighbours_perm docs doc position).length_eq.trans
    (length_positionsWhere_ne hnd hdoc (areLinked doc))
  rw [Node.of, Node.byId, hneighbours, hreferrers]

/-- The nodes of documents of distinct ids are those by their ids. -/
theorem nodesOf_eq_map (hnd : (docs.map (·.id)).Nodup) :
    nodesOf taxonomy docs = docs.map (Node.byId taxonomy docs) := by
  have hnode : ∀ x ∈ docs.zipIdx, Node.of taxonomy (Index.ofList docs) docs.length x.1 x.2 =
      Node.byId taxonomy docs x.1 :=
    fun x hx => Node.of_eq_byId hnd (List.mem_zipIdx_iff_getElem?.1 hx)
  calc nodesOf taxonomy docs
      = docs.zipIdx.map fun x => Node.byId taxonomy docs x.1 := List.map_congr_left hnode
    _ = (docs.zipIdx.map (·.1)).map (Node.byId taxonomy docs) := by rw [List.map_map]; rfl
    _ = docs.map (Node.byId taxonomy docs) := by rw [List.zipIdx_map_fst]

end Dossier.Graph
