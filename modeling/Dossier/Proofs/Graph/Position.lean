import Mathlib.Algebra.Order.Field.Rat
import Mathlib.Data.Fintype.Card
import Dossier.Proofs.Decimal.Quotient
import Dossier.Proofs.Dependency.Walk
import Dossier.Proofs.Graph.Node
import Dossier.Taxonomy.Canonical

/-!
# Nodes position by position

Ids may repeat, so what a node counts are positions: those of the other documents that mention its
id, and those of its neighbours. The nodes, which are read off an index, are the ones that a count
over all positions gives, and being neighbours is mutual, so no document has more of them than
there are other documents (`isByPosition_nodesOf`).
-/

namespace Dossier

/-- The number that a share stands for. Of nothing it is nothing. -/
def Share.ratio (s : Share) : ℚ := s.part / s.whole

/-- A share of at most all is a number from nothing to one. -/
theorem Share.ratio_mem {s : Share} (h : s.part ≤ s.whole) : 0 ≤ s.ratio ∧ s.ratio ≤ 1 := by
  refine ⟨div_nonneg (Nat.cast_nonneg _) (Nat.cast_nonneg _),
    div_le_one_of_le₀ ?_ (Nat.cast_nonneg _)⟩
  exact_mod_cast h

/-- The double that is shown of a share of at most all is one from zero to one, of nothing, too. -/
theorem Share.toFloat_mem_of_le {s : Share} (hle : s.part ≤ s.whole) (hsmall : s.whole < 2 ^ 53) :
    0.0 ≤ s.toFloat ∧ s.toFloat ≤ 1.0 := by
  rcases Nat.eq_zero_or_pos s.whole with hzero | hpos
  · have hfloat : s.toFloat = 0.0 := by
      rw [Share.toFloat, if_pos (beq_iff_eq.2 hzero)]
    rw [hfloat]
    decide
  · exact (Share.toFloat_mem hle hpos hsmall).1

namespace Graph

variable {taxonomy : Taxonomy} {docs : List Document}

/-! ## Counting positions -/

/-- The document at `q` is another than the one at `p` and mentions the id of that one. -/
def Mentions (docs : List Document) (q p : Fin docs.length) : Prop :=
  q ≠ p ∧
  (docs[p].id ∈ docs[q].dependsOn ∨ docs[p].id ∈ docs[q].enables ∨ docs[p].id ∈ docs[q].related)

/-- The document at `p` depends on or enables the id of the one at `q`. -/
def LinksTo (docs : List Document) (p q : Fin docs.length) : Prop :=
  docs[q].id ∈ docs[p].dependsOn ∨ docs[q].id ∈ docs[p].enables

/-- The documents at two positions are neighbours if one of them links to the other. -/
def AreNeighbours (docs : List Document) (p q : Fin docs.length) : Prop :=
  p ≠ q ∧ (LinksTo docs p q ∨ LinksTo docs q p)

instance (docs : List Document) : DecidableRel (Mentions docs) :=
  fun _ _ => inferInstanceAs (Decidable (_ ∧ _))

instance (docs : List Document) : DecidableRel (LinksTo docs) :=
  fun _ _ => inferInstanceAs (Decidable (_ ∨ _))

instance (docs : List Document) : DecidableRel (AreNeighbours docs) :=
  fun _ _ => inferInstanceAs (Decidable (_ ∧ _))

/-- The positions of the neighbours of the document at a position. -/
def neighboursAt (docs : List Document) (p : Fin docs.length) : Finset (Fin docs.length) :=
  {q | AreNeighbours docs p q}

/-- The node of the document at a position, counted over all positions. -/
def Node.byPosition (taxonomy : Taxonomy) (docs : List Document) (p : Fin docs.length) : Node where
  id := docs[p].id
  type := docs[p].type
  title := docs[p].title
  domain := taxonomy.domainOf docs[p]
  status := docs[p].status
  priority := docs[p].priority
  centrality := ⟨(neighboursAt docs p).card, docs.length - 1⟩
  inDegree := Finset.card {q | Mentions docs q p}
  outDegree := docs[p].dependsOn.length + docs[p].enables.length + docs[p].related.length

/-- Being neighbours is mutual. -/
theorem AreNeighbours.symm {p q : Fin docs.length} (h : AreNeighbours docs p q) :
    AreNeighbours docs q p :=
  ⟨h.1.symm, h.2.symm⟩

/-- A document has at most all others for neighbours, since it is none of its own. -/
theorem card_neighboursAt_le (docs : List Document) (p : Fin docs.length) :
    (neighboursAt docs p).card ≤ docs.length - 1 := by
  have hsub : neighboursAt docs p ⊆ Finset.univ.erase p := by
    intro q hq
    exact Finset.mem_erase.2 ⟨(Finset.mem_filter.1 hq).2.1.symm, Finset.mem_univ q⟩
  have hcard := Finset.card_le_card hsub
  rwa [Finset.card_erase_of_mem (Finset.mem_univ p), Finset.card_univ, Fintype.card_fin] at hcard

/-! ## Indexes against counting -/

/-- A list of numbers without repetitions is as long as the positions that it holds are many. -/
theorem length_eq_card {n : Nat} {l : List Nat} {s : Finset (Fin n)} (hnodup : l.Nodup)
    (hmem : ∀ m, m ∈ l ↔ ∃ q ∈ s, q.val = m) : l.length = s.card := by
  have hset : l.toFinset = s.map Fin.valEmbedding := by
    ext m
    simp [hmem]
  rw [← List.toFinset_card_of_nodup hnodup, hset, Finset.card_map]

/-- A position is where something holds of another document if it is that of such a document. -/
theorem mem_positionsWhere_ne {holds : Document → Bool} {p : Fin docs.length} {m : Nat} :
    m ∈ (positionsWhere docs holds).filter (· != p.val) ↔
      ∃ q : Fin docs.length, (q ≠ p ∧ holds docs[q] = true) ∧ q.val = m := by
  rw [List.mem_filter, mem_positionsWhere, bne_iff_ne]
  constructor
  · rintro ⟨⟨doc, hdoc, hholds⟩, hne⟩
    obtain ⟨hm, rfl⟩ := List.getElem?_eq_some_iff.1 hdoc
    exact ⟨⟨m, hm⟩, ⟨fun h => hne (congrArg Fin.val h), hholds⟩, rfl⟩
  · rintro ⟨q, ⟨hne, hholds⟩, rfl⟩
    exact ⟨⟨docs[q], List.getElem?_eq_getElem q.isLt, hholds⟩, fun h => hne (Fin.ext h)⟩

/-- The referrers that are read off the index are the positions that mention the id. -/
theorem mem_referrers {p : Fin docs.length} {m : Nat} :
    m ∈ (Index.ofList docs).referrers docs[p] p ↔ ∃ q, Mentions docs q p ∧ q.val = m := by
  rw [(Index.referrers_perm docs docs[p] p).mem_iff, mem_positionsWhere_ne]
  simp only [Document.refersTo, Document.references, List.contains_iff_mem, List.mem_append,
    Mentions, or_assoc]

/-- The neighbours that are read off the index are the positions of neighbours. -/
theorem mem_neighbours {p : Fin docs.length} {m : Nat} :
    m ∈ (Index.ofList docs).neighbours docs[p] p ↔ ∃ q, AreNeighbours docs p q ∧ q.val = m := by
  rw [(Index.neighbours_perm docs docs[p] p).mem_iff, mem_positionsWhere_ne]
  refine exists_congr fun q => and_congr_left fun _ => ?_
  simp only [areLinked, Document.links, Bool.or_eq_true, List.contains_iff_mem, List.mem_append,
    AreNeighbours, LinksTo, ne_comm, or_comm]

/-- No referrer is listed twice. -/
theorem nodup_referrers (docs : List Document) (doc : Document) (position : Nat) :
    ((Index.ofList docs).referrers doc position).Nodup :=
  (Index.referrers_perm docs doc position).nodup_iff.2 ((nodup_positionsWhere docs _).filter _)

/-- The node that is read off the index is the one counted over all positions. -/
theorem Node.of_eq_byPosition (taxonomy : Taxonomy) (docs : List Document) (p : Fin docs.length) :
    Node.of taxonomy (Index.ofList docs) docs.length docs[p] p = .byPosition taxonomy docs p := by
  have hreferrers : ((Index.ofList docs).referrers docs[p] p).length =
      Finset.card {q | Mentions docs q p} :=
    length_eq_card (nodup_referrers docs docs[p] p) fun m => by
      simp only [mem_referrers, Finset.mem_filter, Finset.mem_univ, true_and]
  have hneighbours : ((Index.ofList docs).neighbours docs[p] p).length =
      (neighboursAt docs p).card :=
    length_eq_card (Index.nodup_neighbours _ docs[p] p) fun m => by
      simp only [mem_neighbours, neighboursAt, Finset.mem_filter, Finset.mem_univ, true_and]
  have hreferences : docs[p].references.length =
      docs[p].dependsOn.length + docs[p].enables.length + docs[p].related.length := by
    rw [Document.references, List.length_append, List.length_append]
  rw [Node.of, Node.byPosition, hreferrers, hneighbours, hreferences]

/-! ## All nodes -/

/-- Nodes are those counted position by position, and centrality is a number from nothing to
one. -/
structure IsByPosition (taxonomy : Taxonomy) (docs : List Document) : Prop where
  nodes : nodesOf taxonomy docs = (List.finRange docs.length).map (Node.byPosition taxonomy docs)
  /-- The neighbours that are counted are the positions of neighbours, -/
  neighbours : ∀ (p : Fin docs.length) m,
    m ∈ (Index.ofList docs).neighbours docs[p] p ↔ ∃ q, AreNeighbours docs p q ∧ q.val = m
  /-- each counted once. -/
  once : ∀ p : Fin docs.length, ((Index.ofList docs).neighbours docs[p] p).Nodup
  symmetric : ∀ p q, AreNeighbours docs p q ↔ AreNeighbours docs q p
  card_le : ∀ p, (neighboursAt docs p).card ≤ docs.length - 1
  centrality : ∀ n ∈ nodesOf taxonomy docs, 0 ≤ n.centrality.ratio ∧ n.centrality.ratio ≤ 1
  /-- As far as doubles count, so is the double that is shown. -/
  toFloat : docs.length ≤ 2 ^ 53 → ∀ n ∈ nodesOf taxonomy docs,
    0.0 ≤ n.centrality.toFloat ∧ n.centrality.toFloat ≤ 1.0

/-- The nodes of documents are those counted over all positions. -/
theorem nodesOf_eq_map_finRange (taxonomy : Taxonomy) (docs : List Document) :
    nodesOf taxonomy docs = (List.finRange docs.length).map (Node.byPosition taxonomy docs) := by
  refine List.ext_getElem (by simp [nodesOf]) fun i hi _ => ?_
  have hlength : i < docs.length := by simpa [nodesOf] using hi
  simpa [nodesOf] using Node.of_eq_byPosition taxonomy docs ⟨i, hlength⟩

/-- The neighbours that a node counts are at most all other documents. -/
theorem centrality_le {n : Node} (hn : n ∈ nodesOf taxonomy docs) :
    n.centrality.part ≤ n.centrality.whole ∧ n.centrality.whole = docs.length - 1 := by
  rw [nodesOf_eq_map_finRange] at hn
  obtain ⟨p, -, rfl⟩ := List.mem_map.1 hn
  exact ⟨card_neighboursAt_le docs p, rfl⟩

/-- **Nodes count positions.** Whatever ids repeat, dangle or refer to themselves, the nodes that
are read off an index filled in one pass are those that a count over all positions gives. -/
theorem isByPosition_nodesOf (taxonomy : Taxonomy) (docs : List Document) :
    IsByPosition taxonomy docs := by
  constructor
  case nodes => exact nodesOf_eq_map_finRange taxonomy docs
  case neighbours => exact fun p m => mem_neighbours
  case once => exact fun p => Index.nodup_neighbours _ docs[p] p
  case symmetric => exact fun p q => ⟨.symm, .symm⟩
  case card_le => exact card_neighboursAt_le docs
  case centrality =>
    exact fun n hn => Share.ratio_mem (centrality_le hn).1
  case toFloat =>
    intro hsmall n hn
    obtain ⟨hle, hwhole⟩ := centrality_le hn
    exact Share.toFloat_mem_of_le hle (by omega)

/-- Two documents with one id, of which the first depends on that id, are neighbours of each
other. -/
example : (nodesOf .canonical [Dependency.sample "A" ["A", "Z", "A"], Dependency.sample "A" [],
      { Dependency.sample "B" ["A"] with related := ["B"] }]).map
        (fun n => (n.inDegree, n.centrality)) =
    [(1, ⟨2, 2⟩), (2, ⟨2, 2⟩), (0, ⟨2, 2⟩)] := by
  decide

end Graph

end Dossier
