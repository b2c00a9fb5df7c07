import Dossier.Proofs.Collection
import Dossier.Proofs.Dependency.Index
import Dossier.Proofs.Query.Ranking
import Dossier.Proofs.Taxonomy.Settings

/-!
# Which document an id stands for

Ids may repeat, and three parts of the program look a document up by its id: a collection by the
positions that it registered, the dependencies by an index that is filled in one pass, and rankings
by a search from the front. All of them find the first document with the id (`resolvesIds_ofList`),
so analyses that use several of them speak of one document.
-/

namespace Dossier

variable {docs : List Document} {doc : Document} {id : String}

/-- A document that is the first of a list to have an id. -/
def IsFirstWith (docs : List Document) (id : String) (doc : Document) : Prop :=
  ∃ before after, docs = before ++ doc :: after ∧ doc.id = id ∧ ∀ other ∈ before, other.id ≠ id

/-- A search from the front finds the first document with an id. -/
theorem document?_eq_some_iff : Dependency.document? docs id = some doc ↔
    IsFirstWith docs id doc := by
  rw [Dependency.document?, List.find?_eq_some_iff_append]
  simp only [beq_iff_eq, Bool.not_eq_true', beq_eq_false_iff_ne]
  constructor
  · rintro ⟨hid, before, after, hdocs, hbefore⟩
    exact ⟨before, after, hdocs, hid, hbefore⟩
  · rintro ⟨before, after, hdocs, hid, hbefore⟩
    exact ⟨hid, before, after, hdocs, hbefore⟩

/-- How a collection of documents stands to their ids, and other look-ups to that of the
collection. -/
structure ResolvesIds (docs : List Document) (c : Collection) : Prop where
  documents_eq : c.documents = docs
  get?_eq_some_iff : ∀ id doc, c.get? id = some doc ↔ IsFirstWith docs id doc
  isSome_get? : ∀ id, (c.get? id).isSome = c.contains id
  contains_iff : ∀ id, c.contains id = true ↔ id ∈ docs.map (·.id)
  ascending : c.duplicateIds.Pairwise (· < ·)
  mem_duplicateIds_iff : ∀ id, id ∈ c.duplicateIds ↔ 2 ≤ (docs.map (·.id)).count id
  /-- The index of dependencies agrees with the collection. -/
  index : ∀ id, (Dependency.Index.ofList docs).get? id = c.get? id
  document? : ∀ id, Dependency.document? docs id = c.get? id
  /-- Documents are ranked by their similarity to the one that the collection finds. -/
  source : ∀ r : Registry, r.collection = c → ∀ id source, c.get? id = some source →
    ∃ order, Query.IsOrder r id source order
  /-- Where the collection finds nothing no document is similar. -/
  absent : ∀ r : Registry, r.collection = c → ∀ id, c.get? id = none →
    ∀ limit, Query.similar r id limit = []

/-- **All look-ups find the first document with an id.** -/
theorem resolvesIds_ofList (docs : List Document) : ResolvesIds docs (.ofList docs) where
  documents_eq := rfl
  get?_eq_some_iff id doc := by rw [Collection.get?_ofList, document?_eq_some_iff]
  isSome_get? id := by
    rw [Bool.eq_iff_iff, Collection.contains_ofList_iff, Collection.get?_ofList,
      Dependency.isSome_document?_iff]
  contains_iff _ := Collection.contains_ofList_iff
  ascending := Taxonomy.pairwise_inOrder _
  mem_duplicateIds_iff _ := Collection.mem_duplicateIds_ofList
  index id := by rw [Dependency.Index.get?_ofList, Collection.get?_ofList]
  document? id := (Collection.get?_ofList docs id).symm
  source r hr id source hsource := by
    refine Query.exists_isOrder ?_
    rwa [Registry.documents, hr, ← Dependency.document?, ← Collection.get?_ofList]
  absent r hr id hnone limit := by
    have hnone : r.documents.find? (·.id == id) = none := by
      rwa [Registry.documents, hr, ← Dependency.document?, ← Collection.get?_ofList]
    rw [Query.similar, Query.rank, hnone]
    exact List.take_nil

end Dossier
