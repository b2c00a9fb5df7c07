import Dossier.Proofs.Dependency.LongestChain

/-!
# Documents in an order of dependencies

Documents of distinct ids, all of whose dependencies are present and grounded, can be put in an
order in which each comes after what it depends on (`IsOrderly.isDependencyOrder_byRank`): the
longest chain from a document is longer than those from its dependencies, so sorting by its length
will do. This needs no more documents than the depth limit, since a chain that is cut does not tell
its id from its dependencies.
-/

namespace Dossier.Dependency

variable {docs : List Document} {doc : Document} {id target : String}

/-- Documents of distinct ids whose dependencies are among them and lead into no cycle. -/
structure IsOrderly (docs : List Document) : Prop where
  nodup : (docs.map (·.id)).Nodup
  present : ∀ doc ∈ docs, ∀ target ∈ doc.dependsOn, target ∈ docs.map (·.id)
  grounded : ∀ doc ∈ docs, Grounded docs doc.id

/-- Documents sorted by the lengths of their longest chains. -/
def byRank (docs : List Document) : List Document :=
  docs.mergeSort fun a b => (longestChain docs a.id).length ≤ (longestChain docs b.id).length

/-- An order of documents in which each comes after all that it depends on. -/
structure IsDependencyOrder (docs order : List Document) : Prop where
  perm : order.Perm docs
  after : ∀ before doc later, order = before ++ doc :: later →
    ∀ target ∈ doc.dependsOn, target ∈ before.map (·.id)

/-! ## Looking up a document of its own -/

/-- Among documents of distinct ids each is the first with its id. -/
theorem document?_of_nodup (hnd : (docs.map (·.id)).Nodup) (hdoc : doc ∈ docs) :
    document? docs doc.id = some doc := by
  rw [document?, List.find?_eq_some_iff_append]
  obtain ⟨before, after, rfl⟩ := List.append_of_mem hdoc
  refine ⟨beq_self_eq_true _, before, after, rfl, fun earlier hearlier => ?_⟩
  rw [List.map_append, List.map_cons] at hnd
  have hne : earlier.id ≠ doc.id :=
    (List.nodup_append.1 hnd).2.2 _ (List.mem_map_of_mem hearlier) _ (.head _)
  simpa using hne

namespace IsOrderly

variable (ho : IsOrderly docs)

include ho

/-- A document depends on the ids that it lists. -/
theorem targets_eq (hdoc : doc ∈ docs) : targets docs doc.id = doc.dependsOn :=
  targets_of_document? (document?_of_nodup ho.nodup hdoc)

/-- What a document depends on is the id of a document. -/
theorem mem_ids_of_dependsOn (ht : DependsOn docs id target) : target ∈ docs.map (·.id) := by
  obtain ⟨doc, hdoc, rfl⟩ := List.mem_map.1 (Dependency.mem_ids_of_dependsOn ht)
  rw [DependsOn, ho.targets_eq hdoc] at ht
  exact ho.present doc hdoc target ht

/-- What a document leads to is the id of a document. -/
theorem mem_ids_of_leadsTo (hid : id ∈ docs.map (·.id)) (hl : LeadsTo docs id target) :
    target ∈ docs.map (·.id) := by
  induction hl with
  | refl => exact hid
  | tail _ hstep _ => exact ho.mem_ids_of_dependsOn hstep

/-! ## Longest chains -/

/-- All ids of a chain that starts from a document are ids of documents. -/
theorem mem_ids_of_mem_chainFrom {room : Nat} {met : String} (hid : id ∈ docs.map (·.id))
    (hmet : met ∈ chainFrom docs room [] id) : met ∈ docs.map (·.id) :=
  ho.mem_ids_of_leadsTo hid (leadsTo_of_mem_chainFrom hmet)

/-- The id of a document is grounded. -/
theorem grounded_of_mem_ids (hid : id ∈ docs.map (·.id)) : Grounded docs id := by
  obtain ⟨doc, hdoc, rfl⟩ := List.mem_map.1 hid
  exact ho.grounded doc hdoc

/-- A chain that starts from a document has no more ids than there are documents. -/
theorem length_chainFrom_le {room : Nat} (hid : id ∈ docs.map (·.id)) :
    (chainFrom docs room [] id).length ≤ docs.length :=
  length_le_of_nodup (ho.grounded_of_mem_ids hid).nodup_chainFrom fun _ hmet =>
    ho.mem_ids_of_mem_chainFrom hid hmet

/-- With room for all documents, the chain from an id is longer than those from its
dependencies. -/
theorem length_chainFrom_lt {room : Nat} (hroom : docs.length ≤ room + 1)
    (ht : DependsOn docs id target) :
    (chainFrom docs (room + 1) [] target).length < (chainFrom docs (room + 1) [] id).length := by
  have hid := Dependency.mem_ids_of_dependsOn ht
  have hg := ho.grounded_of_mem_ids hid
  have hlen : (chainFrom docs (room + 1) [] id).length ≤ docs.length := ho.length_chainFrom_le hid
  have hle : (chainFrom docs room [id] target).length ≤
      (longest ((targets docs id).map (chainFrom docs room [id]))).length :=
    length_le_longest (List.mem_map_of_mem ht)
  -- on the way through the id the chain of the target is the one without a way
  have hpath : chainFrom docs room [id] target = chainFrom docs room [] target :=
    (hg.of_dependsOn ht).chainFrom_eq (Clear.cons hg (.nil docs id) ht) (.nil docs target)
  have hstep : chainFrom docs (room + 1) [] id =
      id :: longest ((targets docs id).map (chainFrom docs room [id])) :=
    chainFrom_succ List.not_mem_nil
  rw [hpath] at hle
  rw [hstep, List.length_cons] at hlen ⊢
  have hfits : chainFrom docs (room + 1) [] target = chainFrom docs room [] target :=
    chainFrom_eq_of_length_le (by omega) (by omega)
  rw [hfits]
  omega

/-! ## Sorting by the longest chain -/

/-- Sorted by their longest chains, documents come after all that they depend on. -/
theorem isDependencyOrder_byRank (hdocs : docs.length ≤ depthLimit) :
    IsDependencyOrder docs (byRank docs) where
  perm := List.mergeSort_perm docs _
  after before doc later horder target ht := by
    have hmem : ∀ d, d ∈ before ++ doc :: later ↔ d ∈ docs := fun d =>
      horder ▸ (List.mergeSort_perm docs _).mem_iff
    have hdoc : doc ∈ docs := (hmem doc).1 (by simp)
    obtain ⟨dep, hdep, rfl⟩ := List.mem_map.1 (ho.present doc hdoc target ht)
    have hlt : (longestChain docs dep.id).length < (longestChain docs doc.id).length :=
      ho.length_chainFrom_lt hdocs (by rwa [DependsOn, ho.targets_eq hdoc])
    have hsorted : (before ++ doc :: later).Pairwise fun a b =>
        (longestChain docs a.id).length ≤ (longestChain docs b.id).length := by
      rw [← horder]
      refine (List.pairwise_mergeSort ?_ ?_ docs).imp of_decide_eq_true
      · simp only [decide_eq_true_eq]
        exact fun _ _ _ => Nat.le_trans
      · simp only [Bool.or_eq_true, decide_eq_true_eq]
        exact fun _ _ => Nat.le_total _ _
    have hlater := (List.pairwise_cons.1 (List.pairwise_append.1 hsorted).2.1).1
    rcases List.mem_append.1 ((hmem dep).2 hdep) with hbefore | hrest
    · exact List.mem_map_of_mem hbefore
    rcases List.mem_cons.1 hrest with rfl | hrest
    · exact absurd hlt (Nat.lt_irrefl _)
    · exact absurd hlt (Nat.not_lt.2 (hlater dep hrest))

end IsOrderly

end Dossier.Dependency
