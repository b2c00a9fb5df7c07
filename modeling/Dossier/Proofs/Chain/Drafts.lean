import Dossier.Proofs.Chain
import Dossier.Proofs.Collection

/-!
# Drafts on a chain

A chain is told to have many drafts if there are more than half as many as it has elements. Its
elements are as many as the documents on it, unless it ends at an id that it has been at or at one
of no document: then there is one more (`length_eq_of_mem_find`). So what is told of a chain that
ends at a document is right, and of any other the risk is missed exactly where the drafts are more
than half of the documents by the least that is possible (`draftsTold_of_mem_find`).
-/

namespace Dossier.Chain

open Dependency

variable {docs : List Document} {chain : Chain}

/-- Whether a chain is told to have many drafts. -/
def TellsManyDrafts (chain : Chain) : Prop :=
  "many draft documents in chain" ∈ chain.risks.map ChainRisk.text

/-- The number of documents on a chain. -/
def documentCount (docs : List Document) (chain : Chain) : Nat := (among docs chain.ids).length

/-- The number of documents on a chain that are drafts. -/
def draftCount (docs : List Document) (chain : Chain) : Nat :=
  (among docs chain.ids).countP (·.status == .draft)

/-- A chain that goes through documents only and meets none of them twice. -/
structure EndsAtDocument (docs : List Document) (chain : Chain) : Prop where
  nodup : chain.ids.Nodup
  mem_ids : ∀ id ∈ chain.ids, id ∈ docs.map (·.id)

instance (docs : List Document) (chain : Chain) : Decidable (EndsAtDocument docs chain) :=
  decidable_of_iff (chain.ids.Nodup ∧ ∀ id ∈ chain.ids, id ∈ docs.map (·.id))
    ⟨fun ⟨h₁, h₂⟩ => ⟨h₁, h₂⟩, fun ⟨h₁, h₂⟩ => ⟨h₁, h₂⟩⟩

/-- What is told of the drafts on a chain, against the share of its documents that are drafts. -/
structure DraftsTold (docs : List Document) (chain : Chain) : Prop where
  /-- Of a chain that ends at a document it is told if more than half of its documents are
  drafts. -/
  ends : EndsAtDocument docs chain →
    (chain.TellsManyDrafts ↔ documentCount docs chain < 2 * draftCount docs chain)
  /-- It is told only if more than half of the documents are drafts. -/
  most : chain.TellsManyDrafts → documentCount docs chain < 2 * draftCount docs chain
  /-- It is missed if the drafts are just more than half and the chain ends at no document of its
  own. -/
  missed_iff : documentCount docs chain < 2 * draftCount docs chain ∧ ¬chain.TellsManyDrafts ↔
    ¬EndsAtDocument docs chain ∧ 2 * draftCount docs chain = documentCount docs chain + 1

/-! ## What is counted -/

/-- A risk is told by its wording. -/
theorem mem_map_text_iff {risk : ChainRisk} {risks : List ChainRisk} :
    risk.text ∈ risks.map ChainRisk.text ↔ risk ∈ risks := by
  refine List.mem_map_of_injective fun a b => ?_
  cases a <;> cases b <;> decide

/-- A chain is told to have many drafts if these are more than half as many as its elements. -/
theorem tellsManyDrafts_of_iff (docs : List Document) (ids : List String) :
    (of docs ids).TellsManyDrafts ↔ ids.length < 2 * draftCount docs (of docs ids) := by
  have hdrafts : (drafts docs ids).length = draftCount docs (of docs ids) := by
    rw [draftCount, List.countP_eq_length_filter, among, List.filter_filter, drafts]
    simp only [Bool.and_comm]
    rfl
  rw [TellsManyDrafts, show "many draft documents in chain" = ChainRisk.manyDrafts.text from rfl,
    mem_map_text_iff, ← hdrafts, Nat.mul_comm 2]
  show ChainRisk.manyDrafts ∈ assess docs ids _ ↔ _
  simp only [assess, List.mem_append]
  constructor
  · rintro ((h | h) | h)
    · split at h <;> simp at h
    · split at h <;> simp at h
    · by_contra hfew
      rw [if_neg hfew] at h
      exact List.not_mem_nil h
  · intro h
    exact .inr (by rw [if_pos h]; exact .head _)

/-- A chain that is found meets no id twice and goes through documents, its last element aside. -/
theorem dropLast_of_mem_find (h : chain ∈ find docs) : chain.ids ≠ [] ∧ chain.ids.dropLast.Nodup ∧
    ∀ id ∈ chain.ids.dropLast, id ∈ docs.map (·.id) := by
  obtain ⟨doc, -, hlong, rfl⟩ := mem_find_iff.1 h
  have htrail : IsTrail docs depthLimit doc.id (longestChain docs doc.id) :=
    isTrail_chainFrom docs depthLimit [] doc.id
  exact ⟨List.ne_nil_of_length_pos (Nat.zero_lt_of_lt hlong), htrail.nodup,
    htrail.walk.mem_ids_of_mem_dropLast⟩

/-- A chain has as many elements as documents, and one more if it does not end at a document of its
own. -/
theorem length_eq_of_mem_find (hnd : (docs.map (·.id)).Nodup) (h : chain ∈ find docs) :
    chain.ids.length = documentCount docs chain + if EndsAtDocument docs chain then 0 else 1 := by
  obtain ⟨hne, hnodup, hids⟩ := dropLast_of_mem_find h
  split
  case isTrue hends =>
    exact (length_among hnd hends.nodup fun id =>
      ⟨fun hid => ⟨hid, hends.mem_ids id hid⟩, And.left⟩).symm
  case isFalse hends =>
    have hsplit := List.dropLast_append_getLast hne
    have hcount : documentCount docs chain = chain.ids.dropLast.length := by
      refine length_among hnd hnodup fun id =>
        ⟨fun hid => ⟨List.dropLast_subset _ hid, hids id hid⟩, ?_⟩
      rintro ⟨hid, hdoc⟩
      by_contra hnot
      rw [← hsplit, List.mem_append, List.mem_singleton] at hid
      obtain rfl := hid.resolve_left hnot
      -- a last element of its own that is a document makes the whole chain one of documents
      refine hends ⟨?_, fun id hid => ?_⟩
      · rw [← hsplit]
        exact List.nodup_append.2 ⟨hnodup, List.nodup_singleton _, fun a ha b hb heq =>
          hnot (List.mem_singleton.1 hb ▸ heq ▸ ha)⟩
      · rw [← hsplit, List.mem_append, List.mem_singleton] at hid
        rcases hid with hid | rfl
        · exact hids id hid
        · exact hdoc
    rw [hcount, List.length_dropLast]
    have hpos := List.length_pos_iff.2 hne
    omega

/-! ## What is told -/

/-- **A chain is told to have many drafts if more than half of its documents are drafts, unless it
ends at no document of its own and the drafts are just more than half.** The elements of a chain
are counted, and where it ends at an id that it has been at, or at one of no document, there is one
more of them than of documents. -/
theorem draftsTold_of_mem_find (hnd : (docs.map (·.id)).Nodup) (h : chain ∈ find docs) :
    DraftsTold docs chain := by
  have hlength := length_eq_of_mem_find hnd h
  obtain ⟨doc, -, -, hchain⟩ := mem_find_iff.1 h
  have htold : chain.TellsManyDrafts ↔ chain.ids.length < 2 * draftCount docs chain := by
    rw [hchain]
    exact tellsManyDrafts_of_iff docs (longestChain docs doc.id)
  rw [hlength] at htold
  constructor
  case ends =>
    intro hends
    rw [htold, if_pos hends, Nat.add_zero]
  case most =>
    intro hmany
    exact Nat.lt_of_le_of_lt (Nat.le_add_right _ _) (htold.1 hmany)
  case missed_iff =>
    rw [htold]
    by_cases hends : EndsAtDocument docs chain
    · simp only [hends, if_true, Nat.add_zero, not_true_eq_false, false_and, iff_false]
      exact fun hboth => hboth.2 hboth.1
    · simp only [hends, if_false, not_false_eq_true, true_and]
      omega

/-- Three documents that depend on each other in a ring, two of them drafts. -/
def ring : List Document :=
  [sample "A" ["B"], sample "B" ["C"], { sample "C" ["A"] with status := .accepted }]

/-- The chain around the ring, which comes back to its start. -/
def around : Chain := of ring ["A", "B", "C", "A"]

/-- The chain around the ring is found. -/
theorem around_mem_find : around ∈ find ring := by
  have hstart : sample "A" ["B"] ∈ starts ring [] ring :=
    mem_starts_iff.2 ⟨[], _, rfl, List.not_mem_nil, fun _ h => absurd h List.not_mem_nil⟩
  exact mem_find_iff.2 ⟨_, hstart, by decide, by decide⟩

/-- Two drafts among the three documents of a ring are just more than half: with the start counted
again they are not more than half of the elements. -/
theorem draftsTold_around :
    (ring.map (·.id)).Nodup ∧ around ∈ find ring ∧ ¬EndsAtDocument ring around ∧
    documentCount ring around < 2 * draftCount ring around ∧ ¬around.TellsManyDrafts := by
  have hnd : (ring.map (·.id)).Nodup := by decide
  have hopen : ¬EndsAtDocument ring around := by decide
  have hmissed := (draftsTold_of_mem_find hnd around_mem_find).missed_iff.2 ⟨hopen, by decide⟩
  exact ⟨hnd, around_mem_find, hopen, hmissed.1, hmissed.2⟩

/-- More than half of the documents on the chain around the ring are drafts, and it is not told to
have many. -/
theorem not_tellsManyDrafts_around : (ring.map (·.id)).Nodup ∧ ∃ chain ∈ find ring,
    ¬("many draft documents in chain" ∈ chain.risks.map ChainRisk.text ↔
      (among ring chain.ids).length < 2 * (among ring chain.ids).countP (·.status == .draft)) := by
  refine ⟨by decide, around, around_mem_find, ?_⟩
  decide

end Dossier.Chain
