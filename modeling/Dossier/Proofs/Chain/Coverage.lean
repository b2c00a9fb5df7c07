import Dossier.Proofs.Chain
import Dossier.Proofs.Dependency.Cycle
import Dossier.Proofs.Graph.Metrics
import Dossier.Proofs.Query.Sort

/-!
# What the chains of a collection cover

A scan starts no chain at a document that lies on a chain before, so every document lies on the
chain of a start (`exists_start_of_mem`). A chain of one element is not reported, but what lies on
it is the id of its start alone, which then depends on nothing; so each id that depends on
something lies on a chain that is reported (`exists_chain_of_targets_ne_nil`). `isScan_find` says
all that a scan promises.

Without cycles a document that a chain passes through has no longer chain of its own, also where
the chain is cut at the depth limit. So nothing longer is lost by starting no chain there, and the
first of the chains found has the length of the longest chain of the graph (`length_head_find`).
-/

namespace Dossier.Chain

open Dependency
open Query (IsStablySorted isStablySorted_mergeSort)

variable {docs rest : List Document} {doc : Document} {covered : List String} {chain : Chain}
  {id : String}

/-! ## The starts of a scan -/

/-- The starts of a scan stand in the order of the documents. -/
theorem starts_sublist (docs : List Document) (covered : List String) (rest : List Document) :
    (starts docs covered rest).Sublist rest := by
  induction rest generalizing covered with
  | nil => exact .slnil
  | cons first rest ih =>
    by_cases hfirst : first.id ∈ covered
    · rw [starts_cons_of_mem hfirst]
      exact (ih covered).cons first
    · rw [starts_cons_of_not_mem hfirst]
      exact (ih _).cons_cons first

/-- No chain is started at a document whose id is covered. -/
theorem not_mem_of_mem_starts (h : doc ∈ starts docs covered rest) : doc.id ∉ covered := by
  obtain ⟨_, _, -, hnot, -⟩ := mem_starts_iff.1 h
  exact hnot

/-- No chain is started at a document whose id lies on the chain of an earlier start. -/
theorem pairwise_starts (docs : List Document) (covered : List String) (rest : List Document) :
    (starts docs covered rest).Pairwise fun earlier later =>
      later.id ∉ longestChain docs earlier.id := by
  induction rest generalizing covered with
  | nil => exact .nil
  | cons first rest ih =>
    by_cases hfirst : first.id ∈ covered
    · rw [starts_cons_of_mem hfirst]
      exact ih covered
    · rw [starts_cons_of_not_mem hfirst]
      refine .cons (fun later hlater hmem => ?_) (ih _)
      exact not_mem_of_mem_starts hlater (List.mem_append_right covered hmem)

/-- An id lies on its longest chain. -/
theorem mem_longestChain_self (docs : List Document) (id : String) : id ∈ longestChain docs id :=
  List.mem_of_mem_head? (head?_chainFrom docs depthLimit [] id)

/-- Every document is covered before or lies on the chain of a start. -/
theorem mem_covered_or_exists_start (h : doc ∈ rest) :
    doc.id ∈ covered ∨ ∃ start ∈ starts docs covered rest,
    doc.id ∈ longestChain docs start.id := by
  induction rest generalizing covered with
  | nil => exact absurd h List.not_mem_nil
  | cons first rest ih =>
    by_cases hfirst : first.id ∈ covered
    · rw [starts_cons_of_mem hfirst]
      rcases List.mem_cons.1 h with rfl | h
      · exact .inl hfirst
      · exact ih h
    · rw [starts_cons_of_not_mem hfirst]
      rcases List.mem_cons.1 h with rfl | h
      · exact .inr ⟨doc, .head _, mem_longestChain_self docs doc.id⟩
      · rcases ih h with hmem | ⟨start, hstart, hmem⟩
        · exact (List.mem_append.1 hmem).imp_right fun hmem => ⟨first, .head _, hmem⟩
        · exact .inr ⟨start, .tail _ hstart, hmem⟩

/-- Every document lies on the chain of a start. -/
theorem exists_start_of_mem (h : doc ∈ docs) :
    ∃ start ∈ starts docs [] docs, doc.id ∈ longestChain docs start.id :=
  (mem_covered_or_exists_start h).resolve_left List.not_mem_nil

/-! ## The chains reported -/

/-- The longest chain from an id that depends on something has more than one element. -/
theorem one_lt_length_longestChain (h : targets docs id ≠ []) :
    1 < (longestChain docs id).length := by
  rcases chainFrom_cases docs depthLimit [] id with ⟨-, hend⟩ | ⟨r, target, -, -, -, hchain, -⟩
  · rcases hend with hmem | hnil | hzero
    · exact absurd hmem List.not_mem_nil
    · exact absurd hnil h
    · exact absurd hzero (by decide)
  · obtain ⟨more, hmore⟩ := exists_chainFrom_eq_cons docs r [id] target
    rw [longestChain, hchain, hmore]
    exact Nat.succ_lt_succ (Nat.succ_pos _)

/-- A chain that is not longer than one element has no other id than the one that it starts
with. -/
theorem eq_of_mem_longestChain {met : String} (hshort : ¬ 1 < (longestChain docs id).length)
    (h : met ∈ longestChain docs id) : met = id := by
  obtain ⟨more, hmore⟩ := exists_chainFrom_eq_cons docs depthLimit [] id
  rw [longestChain, hmore] at hshort h
  cases more with
  | nil => exact List.mem_singleton.1 h
  | cons => exact absurd (Nat.succ_lt_succ (Nat.succ_pos _)) hshort

/-- Every document with an id that depends on something lies on a chain found. -/
theorem exists_chain_of_targets_ne_nil (hdoc : doc ∈ docs) (h : targets docs doc.id ≠ []) :
    ∃ chain ∈ find docs, doc.id ∈ chain.ids := by
  obtain ⟨start, hstart, hmem⟩ := exists_start_of_mem hdoc
  have hlong : 1 < (longestChain docs start.id).length := by
    by_contra hshort
    have heq := eq_of_mem_longestChain hshort hmem
    rw [← heq] at hshort
    exact hshort (one_lt_length_longestChain h)
  exact ⟨_, mem_find_iff.2 ⟨start, hstart, hlong, rfl⟩, hmem⟩

/-- The chains found are those reported, stably sorted by falling length. -/
theorem isStablySorted_find (docs : List Document) :
    IsStablySorted (fun a b => b.ids.length ≤ a.ids.length) (reported docs) (find docs) := by
  have hlonger : (fun a b : Chain => b.ids.length ≤ a.ids.length) =
      fun a b => decide (b.ids.length ≤ a.ids.length) = true :=
    funext₂ fun _ _ => propext decide_eq_true_iff.symm
  rw [find_eq, hlonger]
  refine isStablySorted_mergeSort ?_ ?_ (reported docs)
  · intro a b c hab hbc
    rw [decide_eq_true_iff] at hab hbc ⊢
    exact hbc.trans hab
  · intro a b
    rw [Bool.or_eq_true, decide_eq_true_iff, decide_eq_true_iff]
    exact Nat.le_total _ _

/-- A chain found that is circular is a cycle. -/
theorem isCycle_of_isCircular (h : chain ∈ find docs) (hcircular : chain.isCircular = true) :
    IsCycle docs chain.ids := by
  obtain ⟨doc, -, hlong, rfl⟩ := mem_find_iff.1 h
  exact isCircular_longestChain_iff.1 ⟨hlong, hcircular⟩

/-- What chains say of documents, where `scan` are the documents at which one was traced. -/
structure IsScan (docs scan : List Document) (chains : List Chain) : Prop where
  /-- Chains are traced at documents in their order, at each at most once. -/
  sublist : scan.Sublist docs
  /-- No chain is traced at a document whose id lies on a chain traced at an earlier one. -/
  apart : scan.Pairwise fun earlier later => later.id ∉ longestChain docs earlier.id
  /-- All documents lie on chains that are traced. -/
  traced : ∀ doc ∈ docs, ∃ start ∈ scan, doc.id ∈ longestChain docs start.id
  /-- Of the chains traced those with more than one element are told, the longest first, and
  equally long ones in the order in which they were traced. -/
  sorted : IsStablySorted (fun a b => b.ids.length ≤ a.ids.length)
    ((scan.filter fun doc => 1 < (longestChain docs doc.id).length).map fun doc =>
      of docs (longestChain docs doc.id)) chains
  /-- A document that depends on something and is the first with its id lies on a chain that is
  told. -/
  covers : ∀ doc ∈ docs, document? docs doc.id = some doc → doc.dependsOn ≠ [] →
    ∃ chain ∈ chains, doc.id ∈ chain.ids
  /-- A chain that is called circular ends where it starts, and is a cycle. -/
  circular : ∀ chain ∈ chains, chain.isCircular = true →
    chain.ids.head? = chain.ids.getLast? ∧ IsCycle docs chain.ids
  /-- Where there is no cycle none is called circular. -/
  acyclic : (∀ id, ¬ OnCycle docs id) → ∀ chain ∈ chains, chain.isCircular = false

/-- **A scan covers what depends on something.** It starts no chain at a document that lies on one
before, and still every document lies on the chain of a start; every document with dependencies
that is the first with its id lies on a chain that is found, and no chain is called circular that
is not a cycle. -/
theorem isScan_find (docs : List Document) : IsScan docs (starts docs [] docs) (find docs) := by
  constructor
  case sublist => exact starts_sublist docs [] docs
  case apart => exact pairwise_starts docs [] docs
  case traced => exact fun doc hdoc => exists_start_of_mem hdoc
  case sorted => exact isStablySorted_find docs
  case covers =>
    intro doc hdoc hfirst hne
    exact exists_chain_of_targets_ne_nil hdoc (targets_of_document? hfirst ▸ hne)
  case circular =>
    intro chain hchain hcircular
    have hcycle := isCycle_of_isCircular hchain hcircular
    exact ⟨hcycle.closed, hcycle⟩
  case acyclic =>
    intro hacyclic chain hchain
    rw [Bool.eq_false_iff]
    intro hcircular
    have hcycle := isCycle_of_isCircular hchain hcircular
    obtain ⟨id, hid⟩ := hcycle.exists_head
    exact hacyclic id (hcycle.onCycle hid)

/-! ## The longest of the chains found -/

/-- Without cycles no document has a longer chain than the start on whose chain it lies. -/
theorem exists_start_length_le (hacyclic : ∀ id, ¬ OnCycle docs id) (hdoc : doc ∈ docs) :
    ∃ start ∈ starts docs [] docs,
      (longestChain docs doc.id).length ≤ (longestChain docs start.id).length := by
  obtain ⟨start, hstart, hmem⟩ := exists_start_of_mem hdoc
  have hg : Grounded docs start.id := grounded_of_forall_not_onCycle hacyclic start.id
  exact ⟨start, hstart, hg.length_chainFrom_le_of_leadsTo depthLimit
    (leadsTo_of_mem_chainFrom hmem)⟩

/-- Without cycles no document has a chain of more than one element that is longer than all chains
found. -/
theorem length_le_one_or_exists_length_le (hacyclic : ∀ id, ¬ OnCycle docs id)
    (hdoc : doc ∈ docs) :
    (longestChain docs doc.id).length ≤ 1 ∨
      ∃ chain ∈ find docs, (longestChain docs doc.id).length ≤ chain.ids.length := by
  obtain ⟨start, hstart, hle⟩ := exists_start_length_le hacyclic hdoc
  by_cases hlong : 1 < (longestChain docs start.id).length
  · exact .inr ⟨_, mem_find_iff.2 ⟨start, hstart, hlong, rfl⟩, hle⟩
  · exact .inl (hle.trans (Nat.not_lt.1 hlong))

/-- No chain found is longer than the first. -/
theorem length_le_of_find_eq_cons {first : Chain} {others : List Chain}
    (h : find docs = first :: others)
    (hchain : chain ∈ find docs) : chain.ids.length ≤ first.ids.length := by
  have hpairwise := (isStablySorted_find docs).pairwise
  rw [h] at hpairwise hchain
  rcases List.mem_cons.1 hchain with rfl | hchain
  · exact Nat.le_refl _
  · exact (List.pairwise_cons.1 hpairwise).1 chain hchain

/-- **The first chain is as long as the longest of the graph.** Where there is no cycle, also where
chains are cut at the depth limit: if no chain is found, none of the graph has more than one
element. -/
theorem length_head_find (taxonomy : Taxonomy) (docs : List Document) (nodes : List Graph.Node)
    (edges : List Graph.Edge) (hacyclic : ∀ id, ¬ OnCycle docs id) :
    match find docs with
    | first :: _ => first.ids.length = (Graph.Metrics.of taxonomy docs nodes edges).longestChain
    | [] => (Graph.Metrics.of taxonomy docs nodes edges).longestChain ≤ 1 := by
  show match find docs with
    | first :: _ => first.ids.length = Graph.longestChainLength docs
    | [] => Graph.longestChainLength docs ≤ 1
  split
  case h_1 first others hfind =>
    obtain ⟨source, hsource, hlong, heq⟩ := mem_find_iff.1 (hfind ▸ .head _ : first ∈ find docs)
    have hids : first.ids = longestChain docs source.id := congrArg ids heq
    have hle : first.ids.length ≤ Graph.longestChainLength docs := by
      rw [hids]
      exact Graph.longestChainLength_le_iff.1 (Nat.le_refl _) source (mem_of_mem_starts hsource)
    have hge : Graph.longestChainLength docs ≤ first.ids.length := by
      refine Graph.longestChainLength_le_iff.2 fun doc hdoc => ?_
      rcases length_le_one_or_exists_length_le hacyclic hdoc with hone | ⟨chain, hchain, hdoc⟩
      · exact hone.trans (hids ▸ hlong.le)
      · exact hdoc.trans (length_le_of_find_eq_cons hfind hchain)
    exact Nat.le_antisymm hle hge
  case h_2 hfind =>
    refine Graph.longestChainLength_le_iff.2 fun doc hdoc => ?_
    rcases length_le_one_or_exists_length_le hacyclic hdoc with hone | ⟨chain, hchain, -⟩
    · exact hone
    · exact absurd (hfind ▸ hchain) List.not_mem_nil

/-- A chain that a later document enters further up, beside a dangling target; the second document
with the id `B` would close a cycle if it were the first. -/
def cascade : List Document :=
  [sample "B" ["C"], sample "A" ["X", "B"], sample "C" ["D"], sample "D" [], sample "B" ["A"]]

/-- The cascade has no cycle, and the first of its chains is the longest of the graph. -/
theorem length_head_find_cascade : (∀ id, ¬ OnCycle cascade id) ∧
    ∃ first others, find cascade = first :: others ∧ first.ids = ["A", "B", "C", "D"] ∧
      first.ids.length = (Graph.Metrics.of .canonical cascade [] []).longestChain := by
  have hnone : ∀ doc ∈ cascade, findCycle? (.ofList cascade) doc.id = none := by decide
  have hacyclic : ∀ id, ¬ OnCycle cascade id := not_onCycle_of_forall_grounded fun doc hdoc =>
    grounded_of_findCycle?_eq_none (by decide) (hnone doc hdoc)
  have hlength := length_head_find .canonical cascade [] [] hacyclic
  have hfour : 4 ≤ Graph.longestChainLength cascade := by
    have hA : (longestChain cascade "A").length = 4 := by decide
    have hdoc : sample "A" ["X", "B"] ∈ cascade := .tail _ (.head _)
    exact hA.ge.trans (Graph.longestChainLength_le_iff.1 (Nat.le_refl _) _ hdoc)
  refine ⟨hacyclic, ?_⟩
  cases hfind : find cascade with
  | nil =>
    rw [hfind] at hlength
    exact absurd (hfour.trans hlength) (by decide)
  | cons first others =>
    rw [hfind] at hlength
    obtain ⟨start, hstart, -, rfl⟩ :=
      mem_find_iff.1 (hfind ▸ List.mem_cons_self : first ∈ find cascade)
    have honly : ∀ start ∈ starts cascade [] cascade, 4 ≤ (longestChain cascade start.id).length →
        longestChain cascade start.id = ["A", "B", "C", "D"] := by decide
    exact ⟨_, others, rfl, honly start hstart (hlength ▸ hfour), hlength⟩

end Dossier.Chain
