import Dossier.Chain
import Dossier.Proofs.Dependency.Order
import Dossier.Proofs.Dependency.Tracer

/-!
# Laws of the chains of a collection

The chains that are found are the longest chains from the documents at which the scan starts one
(`mem_find_iff`), and the scan starts one at a document that lies on no chain before
(`mem_starts_iff`). A chain is circular exactly if it is a cycle (`isCircular_longestChain_iff`).

So a cycle shows only if the scan starts on it and no other trail from there is longer. A chain
that enters the cycle from outside covers it and does not come back to its start.
-/

namespace Dossier.Chain

open Dependency

variable {docs rest : List Document} {doc : Document} {covered : List String} {chain : Chain}

/-! ## Where chains start -/

/-- The documents of `rest` at which a chain is started: those that lie on no chain before. -/
def starts (docs : List Document) (covered : List String) : (rest : List Document) → List Document
  | [] => []
  | doc :: rest =>
    if covered.contains doc.id then starts docs covered rest
    else doc :: starts docs (covered ++ longestChain docs doc.id) rest

/-- No chain is started at a document that is covered. -/
theorem starts_cons_of_mem (h : doc.id ∈ covered) :
    starts docs covered (doc :: rest) = starts docs covered rest :=
  if_pos (List.contains_iff_mem.2 h)

/-- A chain is started at a document that is not covered, and covers all ids on it. -/
theorem starts_cons_of_not_mem (h : doc.id ∉ covered) :
    starts docs covered (doc :: rest) =
      doc :: starts docs (covered ++ longestChain docs doc.id) rest :=
  if_neg (mt List.contains_iff_mem.1 h)

/-- A chain is started at a document that lies on no chain of a start before it. -/
theorem mem_starts_iff : doc ∈ starts docs covered rest ↔
    ∃ before after, rest = before ++ doc :: after ∧ doc.id ∉ covered ∧
      ∀ start ∈ starts docs covered before, doc.id ∉ longestChain docs start.id := by
  induction rest generalizing covered with
  | nil => simp [starts]
  | cons first rest ih =>
    by_cases hfirst : first.id ∈ covered
    · rw [starts_cons_of_mem hfirst, ih]
      constructor
      · rintro ⟨before, after, rfl, hnot, hbefore⟩
        exact ⟨first :: before, after, rfl, hnot, by rwa [starts_cons_of_mem hfirst]⟩
      · rintro ⟨before, after, heq, hnot, hbefore⟩
        cases before with
        | nil =>
          cases heq
          exact absurd hfirst hnot
        | cons _ before =>
          cases heq
          exact ⟨before, after, rfl, hnot, by rwa [starts_cons_of_mem hfirst] at hbefore⟩
    · rw [starts_cons_of_not_mem hfirst, List.mem_cons, ih]
      constructor
      · rintro (rfl | ⟨before, after, rfl, hnot, hbefore⟩)
        · exact ⟨[], rest, rfl, hfirst, fun _ h => by simp [starts] at h⟩
        · rw [List.mem_append, not_or] at hnot
          refine ⟨first :: before, after, rfl, hnot.1, ?_⟩
          rw [starts_cons_of_not_mem hfirst]
          exact List.forall_mem_cons.2 ⟨hnot.2, hbefore⟩
      · rintro ⟨before, after, heq, hnot, hbefore⟩
        cases before with
        | nil =>
          cases heq
          exact .inl rfl
        | cons _ before =>
          cases heq
          rw [starts_cons_of_not_mem hfirst, List.forall_mem_cons] at hbefore
          refine .inr ⟨before, after, rfl, ?_, hbefore.2⟩
          rw [List.mem_append, not_or]
          exact ⟨hnot, hbefore.1⟩

/-- A chain is started at documents of the collection. -/
theorem mem_of_mem_starts (h : doc ∈ starts docs covered rest) : doc ∈ rest := by
  obtain ⟨before, after, rfl, -, -⟩ := mem_starts_iff.1 h
  simp

/-- The scan collects the longest chains from its starts, single elements aside. -/
theorem collect_eq {t : Tracer} {found : Found} (ht : t.Valid)
    (hf : Tracer.Sound t.documents found) :
    collect t found covered rest =
      ((starts t.documents covered rest).map fun doc => longestChain t.documents doc.id).filter
        (·.length > 1) := by
  induction rest generalizing covered found with
  | nil => rfl
  | cons doc rest ih =>
    obtain ⟨hchain, hsound⟩ := Tracer.chain_spec ht hf doc.id
    rw [collect, starts]
    split
    · exact ih hf
    · rw [List.map_cons, List.filter_cons, ← ih hsound, ← hchain]
      simp only [decide_eq_true_eq]

/-- The chains that a scan reports, in its order: of the longest chains from its starts those with
more than one element. -/
def reported (docs : List Document) : List Chain :=
  ((starts docs [] docs).filter fun doc => 1 < (longestChain docs doc.id).length).map fun doc =>
    of docs (longestChain docs doc.id)

/-- The chains found are those reported, the longest first. -/
theorem find_eq (docs : List Document) :
    find docs = (reported docs).mergeSort fun a b => b.ids.length ≤ a.ids.length := by
  have hcollect : collect (.ofList docs) [] [] docs =
      ((starts docs [] docs).map fun doc => longestChain docs doc.id).filter (·.length > 1) :=
    collect_eq (Tracer.valid_ofList docs) (Tracer.sound_nil docs)
  rw [find, hcollect, List.filter_map, List.map_map]
  rfl

/-- The chains found are the longest chains from the starts, single elements aside. -/
theorem mem_find_iff : chain ∈ find docs ↔
    ∃ doc ∈ starts docs [] docs, 1 < (longestChain docs doc.id).length ∧
      chain = of docs (longestChain docs doc.id) := by
  rw [find_eq, List.mem_mergeSort, reported, List.mem_map]
  simp only [List.mem_filter, decide_eq_true_eq, and_assoc, eq_comm (a := chain)]

/-! ## Circular chains -/

/-- A chain is circular if it ends where it starts. -/
theorem isCircular_of_iff {ids : List String} :
    (of docs ids).isCircular = true ↔ ids.head? = ids.getLast? := beq_iff_eq

/-- A longest chain of several elements is circular exactly if it is a cycle. -/
theorem isCircular_longestChain_iff {id : String} :
    1 < (longestChain docs id).length ∧ (of docs (longestChain docs id)).isCircular = true ↔
      IsCycle docs (longestChain docs id) := by
  rw [isCircular_of_iff]
  have htrail : IsTrail docs depthLimit id (longestChain docs id) :=
    isTrail_chainFrom docs depthLimit [] id
  exact ⟨fun h => ⟨h.1, h.2, htrail.walk, htrail.nodup⟩, fun h => ⟨h.two_le, h.closed⟩⟩

/-- **A circular chain is found exactly if a longest chain comes back to its start.** The start is
a document that lies on no chain before, and no trail from it is longer than the cycle. -/
theorem exists_circular_iff (docs : List Document) :
    (∃ chain ∈ find docs, chain.isCircular = true ∧ chain.ids.head? = chain.ids.getLast?) ↔
      ∃ doc ∈ starts docs [] docs, IsCycle docs (longestChain docs doc.id) := by
  constructor
  · rintro ⟨chain, hchain, hcircular, -⟩
    obtain ⟨doc, hdoc, hlong, rfl⟩ := mem_find_iff.1 hchain
    exact ⟨doc, hdoc, isCircular_longestChain_iff.1 ⟨hlong, hcircular⟩⟩
  · rintro ⟨doc, hdoc, hcycle⟩
    obtain ⟨hlong, hcircular⟩ := isCircular_longestChain_iff.2 hcycle
    exact ⟨_, mem_find_iff.2 ⟨doc, hdoc, hlong, rfl⟩, hcircular, hcycle.closed⟩

/-- Two documents that depend on each other, after one that depends on the first of them. -/
def hidden : List Document := [sample "A" ["B"], sample "B" ["C"], sample "C" ["B"]]

/-- The chain that enters the cycle from outside covers it, so no circular chain is found. -/
theorem not_exists_circular_hidden :
    IsCycle hidden ["B", "C", "B"] ∧
      ¬ ∃ chain ∈ find hidden, chain.isCircular = true ∧ chain.ids.head? = chain.ids.getLast? := by
  refine ⟨by decide, ?_⟩
  rintro ⟨chain, hchain, hcircular, -⟩
  obtain ⟨doc, hdoc, -, rfl⟩ := mem_find_iff.1 hchain
  have hopen : ∀ start ∈ starts hidden [] hidden,
      (of hidden (longestChain hidden start.id)).isCircular = false := by decide
  exact Bool.false_ne_true ((hopen doc hdoc).symm.trans hcircular)

/-! ## Chains of documents in order -/

/-- Among documents that are orderly no chain is circular, and its ids are those of documents. -/
theorem of_mem_find_of_isOrderly (ho : IsOrderly docs) (h : chain ∈ find docs) :
    chain.isCircular = false ∧ ∀ id ∈ chain.ids, id ∈ docs.map (·.id) := by
  obtain ⟨doc, hdoc, hlong, rfl⟩ := mem_find_iff.1 h
  have hmem := mem_of_mem_starts hdoc
  refine ⟨Bool.eq_false_iff.2 fun hcircular => ?_, fun id hid => ?_⟩
  · have hcycle := isCircular_longestChain_iff.1 ⟨hlong, hcircular⟩
    exact (ho.grounded doc hmem).not_onCycle (hcycle.onCycle (head?_chainFrom docs _ [] doc.id))
  · exact ho.mem_ids_of_mem_chainFrom (List.mem_map_of_mem hmem) hid

end Dossier.Chain
