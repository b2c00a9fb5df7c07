import Mathlib.Algebra.Order.BigOperators.Group.List
import Mathlib.Algebra.Ring.Nat
import Dossier.Graph.Edge

/-!
# Laws of edges

The edges of a document come relationship by relationship, and those of a collection document by
document. So the edges of one relationship are what the documents list under it
(`filter_relationship_edgesOf`), and the edges that are references lead from the ids of documents
to what these refer to (`map_ends_filter_edgesOf`).
-/

namespace Dossier.Graph

/-! ## Edges of a document -/

namespace Relationship

/-- All relationships, in the order in which a document's edges are listed. -/
def all : List Relationship := [dependsOn, enables, conflictsWith, related, supersedes]

/-- The ids that a document lists under a relationship. -/
def targets : Relationship → Document → List String
  | dependsOn, doc => doc.dependsOn
  | enables, doc => doc.enables
  | conflictsWith, doc => doc.conflictsWith
  | related, doc => doc.related
  | supersedes, doc => doc.supersedes.toList

/-- Whether what is listed under a relationship is among the references of a document. -/
def isReference : Relationship → Bool
  | dependsOn | enables | related => true
  | conflictsWith | supersedes => false

/-- The edges of a document along a relationship. -/
def edges (doc : Document) (r : Relationship) : List Edge :=
  (r.targets doc).map fun target => ⟨doc.id, target, r⟩

theorem filter_all (r : Relationship) : all.filter (· == r) = [r] := by
  cases r <;> rfl

end Relationship

/-- The edges of a document come relationship by relationship. -/
theorem ofDocument_eq_flatMap (doc : Document) :
    Edge.ofDocument doc = Relationship.all.flatMap (Relationship.edges doc) := by
  simp [Edge.ofDocument, Relationship.all, Relationship.edges, Relationship.targets]

/-- Of lists put one after another, each of elements that are selected together, those are left
that come from what is selected. -/
theorem filter_flatMap_of_forall {α β : Type} {l : List α} {f : α → List β} {p : α → Bool}
    {q : β → Bool}
    (h : ∀ a, ∀ b ∈ f a, q b = p a) : (l.flatMap f).filter q = (l.filter p).flatMap f := by
  induction l with
  | nil => rfl
  | cons a rest ih =>
    rw [List.flatMap_cons, List.filter_append, ih, List.filter_cons]
    cases hp : p a with
    | true =>
      have hall : (f a).filter q = f a := List.filter_eq_self.2 fun b hb => (h a b hb).trans hp
      rw [hall, if_pos rfl, List.flatMap_cons]
    | false =>
      have hnone : (f a).filter q = [] :=
        List.filter_eq_nil_iff.2 fun b hb => by rw [h a b hb, hp]; exact Bool.false_ne_true
      rw [hnone, if_neg Bool.false_ne_true, List.nil_append]

/-- The edges of a document of some relationships come relationship by relationship. -/
theorem filter_ofDocument (p : Relationship → Bool) (doc : Document) :
    (Edge.ofDocument doc).filter (p ·.relationship) =
      (Relationship.all.filter p).flatMap (Relationship.edges doc) := by
  rw [ofDocument_eq_flatMap]
  refine filter_flatMap_of_forall fun r e he => ?_
  obtain ⟨_, -, rfl⟩ := List.mem_map.1 he
  rfl

/-! ## Edges of one relationship -/

/-- The edges of one relationship lead to what the documents list under it. -/
theorem filter_relationship_edgesOf (r : Relationship) (docs : List Document) :
    (edgesOf docs).filter (·.relationship == r) = docs.flatMap fun doc => r.edges doc := by
  have hdoc : ∀ doc, (Edge.ofDocument doc).filter (·.relationship == r) = r.edges doc := by
    intro doc
    rw [filter_ofDocument (· == r), Relationship.filter_all, List.flatMap_singleton]
  simp only [edgesOf, List.filter_flatMap, hdoc]

/-- There are as many edges of one relationship as documents list ids under it. -/
theorem length_filter_relationship (r : Relationship) (docs : List Document) :
    ((edgesOf docs).filter (·.relationship == r)).length =
      (docs.map fun doc => (r.targets doc).length).sum := by
  simp only [filter_relationship_edgesOf, List.length_flatMap, Relationship.edges, List.length_map]

/-! ## Edges that are references -/

/-- The ids that an edge leads from and to. -/
def Edge.ends (e : Edge) : String × String := (e.source, e.target)

/-- The edges that are references lead from each document to what it refers to. -/
theorem map_ends_edgesOf (docs : List Document) :
    ((edgesOf docs).filter (·.relationship.isReference)).map Edge.ends =
      docs.flatMap fun doc => doc.references.map (doc.id, ·) := by
  have hdoc : ∀ doc : Document, ((Edge.ofDocument doc).filter (·.relationship.isReference)).map
      Edge.ends =
      doc.references.map (doc.id, ·) := by
    intro doc
    have hreferences : Relationship.all.filter Relationship.isReference =
        [.dependsOn, .enables, .related] :=
      rfl
    rw [filter_ofDocument Relationship.isReference, hreferences]
    simp [Relationship.edges, Relationship.targets, Function.comp_def, Edge.ends,
      Document.references]
  simp only [edgesOf, List.filter_flatMap, List.map_flatMap, hdoc]

/-- The references from ids of one kind to ids of another lead from the documents of the first kind
to what they refer to of the second. -/
theorem map_ends_filter_edgesOf (isSource isTarget : String → Bool) (docs : List Document) :
    (((edgesOf docs).filter (·.relationship.isReference)).filter fun e =>
        isSource e.source && isTarget e.target).map Edge.ends =
      (docs.filter fun doc => isSource doc.id).flatMap fun doc =>
        (doc.references.filter isTarget).map (doc.id, ·) := by
  have hsource : (docs.flatMap fun doc => doc.references.map (doc.id, ·)).filter
        (fun x => isSource x.1) =
      (docs.filter fun doc => isSource doc.id).flatMap fun doc =>
        doc.references.map (doc.id, ·) := by
    refine filter_flatMap_of_forall fun doc x hx => ?_
    obtain ⟨_, -, rfl⟩ := List.mem_map.1 hx
    rfl
  calc (((edgesOf docs).filter (·.relationship.isReference)).filter fun e =>
        isSource e.source && isTarget e.target).map Edge.ends =
      ((docs.flatMap fun doc => doc.references.map (doc.id, ·)).filter
        (fun x => isSource x.1)).filter (fun x => isTarget x.2) := by
        rw [← map_ends_edgesOf]
        generalize (edgesOf docs).filter (·.relationship.isReference) = references
        rw [List.filter_map, List.filter_map, List.filter_filter]
        simp only [Function.comp_def, Edge.ends, Bool.and_comm]
    _ = (docs.filter fun doc => isSource doc.id).flatMap fun doc =>
          (doc.references.filter isTarget).map (doc.id, ·) := by
        rw [hsource, List.filter_flatMap]
        simp only [List.filter_map, Function.comp_def]

end Dossier.Graph
