import Mathlib.Algebra.Order.Group.Nat
import Dossier.Graph.Basic
import Dossier.Proofs.Graph.Cluster
import Dossier.Proofs.Graph.Edge
import Dossier.Proofs.Graph.Node
import Dossier.Proofs.Dependency.Order
import Dossier.Taxonomy.Canonical

/-!
# Nodes, edges and clusters of one graph

Nodes, edges and clusters are computed from the documents each on its own, and count by different
rules: an edge for every reference, a degree inwards for every other document that refers to an id,
a cluster for every domain. Among documents of distinct ids they agree: degrees and connections can
be read off the edges, and what is in a cluster off the nodes (`coherent_ofList`).
-/

namespace Dossier.Graph

variable {taxonomy : Taxonomy} {docs : List Document} {doc : Document}

/-- The edges that are references. -/
def references (g : Graph) : List Edge := g.edges.filter (·.relationship.isReference)

/-- The ids of the nodes of a domain, in the order of the nodes. -/
def idsIn (g : Graph) (d : Domain) : List String := (g.nodes.filter (·.domain == d)).map (·.id)

/-- The parts of a graph agree with one another. -/
structure Coherent (g : Graph) : Prop where
  /-- A node's degree outwards counts the references from it. -/
  outDegree : ∀ n ∈ g.nodes, n.outDegree = (g.references.filter (·.source == n.id)).length
  /-- A node's degree inwards counts the other ids that references to it come from, each once. -/
  inDegree : ∀ n ∈ g.nodes, n.inDegree =
    ((g.references.filter fun e => e.source != n.id && e.target == n.id).map
      (·.source)).eraseDups.length
  /-- What comes in has gone out, though not all that goes out comes in. -/
  sum_inDegree_le : (g.nodes.map (·.inDegree)).sum ≤ (g.nodes.map (·.outDegree)).sum
  /-- A cluster has the nodes of its domain. -/
  ids : ∀ c ∈ g.clusters, c.ids = g.idsIn c.domain
  /-- A cluster's connections count the references from its domain to ids that are not in it. -/
  connections : ∀ c ∈ g.clusters, c.connections =
    (g.references.filter fun e =>
      (g.idsIn c.domain).contains e.source && !(g.idsIn c.domain).contains e.target).length

/-! ## Documents of distinct ids -/

/-- Among documents of distinct ids only one has the id of a document. -/
theorem filter_id_of_nodup (hnd : (docs.map (·.id)).Nodup) (hdoc : doc ∈ docs) :
    docs.filter (·.id == doc.id) = [doc] := by
  obtain ⟨before, after, rfl⟩ := List.append_of_mem hdoc
  rw [List.map_append, List.map_cons, List.nodup_append, List.nodup_cons] at hnd
  obtain ⟨-, ⟨hafter, -⟩, hbefore⟩ := hnd
  have hnoneBefore : before.filter (·.id == doc.id) = [] :=
    List.filter_eq_nil_iff.2 fun other hother heq =>
      hbefore _ (List.mem_map_of_mem hother) _ (.head _) (eq_of_beq heq)
  have hnoneAfter : after.filter (·.id == doc.id) = [] :=
    List.filter_eq_nil_iff.2 fun other hother heq =>
      hafter (List.mem_map.2 ⟨other, hother, eq_of_beq heq⟩)
  rw [List.filter_append, List.filter_cons, hnoneBefore, hnoneAfter, beq_self_eq_true, if_pos rfl,
    List.nil_append]

/-- Among documents of distinct ids a document is one of some if its id is one of theirs. -/
theorem id_mem_map_filter_iff (hnd : (docs.map (·.id)).Nodup) (hdoc : doc ∈ docs)
    {p : Document → Bool} : doc.id ∈ (docs.filter p).map (·.id) ↔ p doc = true := by
  simp only [List.mem_map, List.mem_filter]
  constructor
  · rintro ⟨other, ⟨hother, hp⟩, hid⟩
    obtain rfl : other = doc := List.inj_on_of_nodup_map hnd hother hdoc hid
    exact hp
  · exact fun hp => ⟨doc, ⟨hdoc, hp⟩, rfl⟩

/-! ## Degrees -/

/-- The references between ids of two kinds are those of the documents of the first kind to the
second. -/
theorem length_filter_references (isSource isTarget : String → Bool) (taxonomy : Taxonomy)
    (docs : List Document) :
    ((ofList taxonomy docs).references.filter fun e => isSource e.source &&
      isTarget e.target).length =
      ((docs.filter fun doc => isSource doc.id).flatMap fun doc =>
        doc.references.filter isTarget).length := by
  have hends := congrArg List.length (map_ends_filter_edgesOf isSource isTarget docs)
  simp only [List.length_map, List.length_flatMap] at hends ⊢
  exact hends

/-- As many references come from a document as it has. -/
theorem length_references_eq (hnd : (docs.map (·.id)).Nodup) (hdoc : doc ∈ docs) :
    doc.references.length =
      ((ofList taxonomy docs).references.filter (·.source == doc.id)).length := by
  have hall := length_filter_references (· == doc.id) (fun _ => true) taxonomy docs
  rw [filter_id_of_nodup hnd hdoc, List.flatMap_singleton, List.filter_true] at hall
  simpa using hall.symm

/-- The other documents that refer to an id are as many as the other ids from which references come
to it. -/
theorem countP_refersTo_eq (hnd : (docs.map (·.id)).Nodup) (id : String) :
    (docs.countP fun other => other.id != id && other.refersTo id) =
      (((ofList taxonomy docs).references.filter fun e => e.source != id && e.target == id).map
        (·.source)).eraseDups.length := by
  have hsources : ∀ source,
      source ∈ ((ofList taxonomy docs).references.filter fun e =>
        e.source != id && e.target == id).map (·.source) ↔
      source ∈ (docs.filter fun other => other.id != id && other.refersTo id).map (·.id) := by
    intro source
    have hends := congrArg (List.map Prod.fst) (map_ends_filter_edgesOf (· != id) (· == id) docs)
    rw [List.map_map] at hends
    show source ∈ (((edgesOf docs).filter (·.relationship.isReference)).filter _).map
      (Prod.fst ∘ Edge.ends) ↔ _
    rw [hends]
    simp only [List.map_flatMap, List.map_map, List.mem_flatMap, List.mem_map, List.mem_filter,
      Function.comp_apply, Document.refersTo, List.contains_iff_mem, Bool.and_eq_true, beq_iff_eq,
      and_assoc]
    constructor
    · rintro ⟨other, hother, hne, _, hmem, rfl, rfl⟩
      exact ⟨other, hother, hne, hmem, rfl⟩
    · rintro ⟨other, hother, hne, hmem, rfl⟩
      exact ⟨other, hother, hne, id, hmem, rfl, rfl⟩
  have hnodup : ((docs.filter fun other => other.id != id && other.refersTo id).map
      (·.id)).Nodup :=
    hnd.sublist (List.filter_sublist.map _)
  rw [(eraseDups_perm_of_nodup hnodup hsources).length_eq, List.length_map,
    List.countP_eq_length_filter]

/-- A sum gains one for each element that is counted. -/
theorem sum_map_add_countP {β : Type} (l : List β) (f : β → Nat) (p : β → Bool) :
    (l.map fun b => f b + if p b then 1 else 0).sum = (l.map f).sum + l.countP p := by
  induction l with
  | nil => rfl
  | cons b rest ih =>
    simp only [List.map_cons, List.sum_cons, ih, List.countP_cons]
    omega

/-- Pairs are as many counted from one side as from the other. -/
theorem sum_countP_comm {α β : Type} (l : List α) (l' : List β) (p : α → β → Bool) :
    (l.map fun a => l'.countP (p a)).sum = (l'.map fun b => l.countP (p · b)).sum := by
  induction l with
  | nil => simp
  | cons a rest ih =>
    simp only [List.countP_cons, sum_map_add_countP]
    rw [List.map_cons, List.sum_cons, ih, Nat.add_comm]

/-- A document refers to no more of others of distinct ids than it has references. -/
theorem countP_refersTo_le (hnd : (docs.map (·.id)).Nodup) (doc : Document) :
    (docs.countP fun other => doc.id != other.id && doc.refersTo other.id) ≤
      doc.references.length := by
  have hnodup : ((docs.filter fun other => doc.id != other.id && doc.refersTo other.id).map
      (·.id)).Nodup :=
    hnd.sublist (List.filter_sublist.map _)
  have hsub : ∀ id ∈
      (docs.filter fun other => doc.id != other.id && doc.refersTo other.id).map (·.id),
      id ∈ doc.references := by
    intro id hid
    obtain ⟨other, hother, rfl⟩ := List.mem_map.1 hid
    have hrefers := (List.mem_filter.1 hother).2
    simp only [Bool.and_eq_true, Document.refersTo, List.contains_iff_mem] at hrefers
    exact hrefers.2
  rw [List.countP_eq_length_filter, ← List.length_map (·.id)]
  exact (hnodup.subperm hsub).length_le

/-- The degrees inwards of documents of distinct ids add up to no more than their references: a
pair of documents counts inwards once, and outwards at least once. -/
theorem sum_countP_refersTo_le (hnd : (docs.map (·.id)).Nodup) :
    (docs.map fun doc => docs.countP fun other => other.id != doc.id &&
      other.refersTo doc.id).sum ≤
      (docs.map (·.references.length)).sum := by
  rw [sum_countP_comm docs docs fun doc other => other.id != doc.id && other.refersTo doc.id]
  exact List.sum_le_sum fun doc _ => countP_refersTo_le hnd doc

/-! ## Clusters -/

/-- The nodes of a domain are its documents. -/
theorem idsIn_ofList (taxonomy : Taxonomy) (hnd : (docs.map (·.id)).Nodup) (d : Domain) :
    (ofList taxonomy docs).idsIn d = (membersOf taxonomy docs d).map (·.id) := by
  show ((nodesOf taxonomy docs).filter _).map _ = _
  rw [nodesOf_eq_map hnd, List.filter_map, List.map_map]
  rfl

/-- The documents with the ids of a domain's documents are these. -/
theorem filter_id_mem_membersOf (hnd : (docs.map (·.id)).Nodup) (d : Domain) :
    (docs.filter fun doc => ((membersOf taxonomy docs d).map (·.id)).contains doc.id) =
      membersOf taxonomy docs d := by
  refine List.filter_congr fun doc hdoc => ?_
  rw [Bool.eq_iff_iff, List.contains_iff_mem]
  exact id_mem_map_filter_iff hnd hdoc

/-- The references of a domain's documents to ids outside are those that lead out of its
cluster. -/
theorem length_outwardReferences_eq (hnd : (docs.map (·.id)).Nodup) (d : Domain) :
    (outwardReferences (membersOf taxonomy docs d)).length =
      ((ofList taxonomy docs).references.filter fun e =>
        ((membersOf taxonomy docs d).map (·.id)).contains e.source &&
          !((membersOf taxonomy docs d).map (·.id)).contains e.target).length := by
  have hcount := length_filter_references ((membersOf taxonomy docs d).map (·.id)).contains
    (fun target => !((membersOf taxonomy docs d).map (·.id)).contains target) taxonomy docs
  rw [hcount, filter_id_mem_membersOf hnd, outwardReferences, List.filter_flatMap]

/-! ## The whole graph -/

/-- **The parts of a graph agree.** Among documents of distinct ids, degrees and connections are
what the edges say, clusters have the nodes of their domains, and the degrees inwards add up to no
more than those outwards. -/
theorem coherent_ofList (hnd : (docs.map (·.id)).Nodup) : (ofList taxonomy docs).Coherent := by
  have hnodes : (ofList taxonomy docs).nodes = docs.map (Node.byId taxonomy docs) :=
    nodesOf_eq_map hnd
  constructor
  case outDegree =>
    intro n hn
    rw [hnodes] at hn
    obtain ⟨doc, hdoc, rfl⟩ := List.mem_map.1 hn
    exact length_references_eq hnd hdoc
  case inDegree =>
    intro n hn
    rw [hnodes] at hn
    obtain ⟨doc, -, rfl⟩ := List.mem_map.1 hn
    exact countP_refersTo_eq hnd doc.id
  case sum_inDegree_le =>
    rw [hnodes, List.map_map, List.map_map]
    exact sum_countP_refersTo_le hnd
  case ids =>
    intro c hc
    obtain ⟨d, -, rfl⟩ := mem_clustersOf.1 hc
    exact (idsIn_ofList taxonomy hnd d).symm
  case connections =>
    intro c hc
    obtain ⟨d, -, rfl⟩ := mem_clustersOf.1 hc
    show _ = ((ofList taxonomy docs).references.filter fun e =>
      ((ofList taxonomy docs).idsIn d).contains e.source &&
        !((ofList taxonomy docs).idsIn d).contains e.target).length
    rw [idsIn_ofList taxonomy hnd d]
    exact length_outwardReferences_eq hnd d

/-- Two domains with a reference to itself, repeated references, references that dangle and a
cycle. -/
def crossed : List Document :=
  [{ Dependency.sample "A" ["A", "B", "B"] with domain := some .market, related := ["C"] },
    { Dependency.sample "B" ["A"] with
      domain := some .market, enables := ["Z"], conflictsWith := ["A"] },
    { Dependency.sample "C" ["A", "A"] with domain := some .risk, supersedes := some "B" }]

/-- Both clusters have two connections, and four references of eight count inwards. -/
theorem coherent_ofList_crossed : (ofList .canonical crossed).Coherent ∧
    (ofList .canonical crossed).nodes.map (·.inDegree) = [2, 1, 1] ∧
    (ofList .canonical crossed).nodes.map (·.outDegree) = [4, 2, 2] ∧
    (ofList .canonical crossed).clusters.map (·.ids) = [["A", "B"], ["C"]] ∧
    (ofList .canonical crossed).clusters.map (·.connections) = [2, 2] :=
  ⟨coherent_ofList (by decide), by decide, by decide, by decide, by decide⟩

end Dossier.Graph
