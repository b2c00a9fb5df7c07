import Dossier.CriticalPath
import Dossier.Proofs.Collection
import Dossier.Proofs.Graph.Coherence
import Dossier.Taxonomy.Canonical

/-!
# What a critical path repeats

A path is put together from two choices of documents, and nothing keeps a document out of both: its
type says whether it is part of the foundation, its status and its domain whether it is an accepted
one of operations. So among documents of distinct ids each lies on the path once for every choice
that takes it (`count_path`). A path is free of repetitions exactly if no document is taken by both
choices, and the weeks count a document that is taken by both like two (`repetitions_path`).
-/

namespace Dossier.CriticalPath

variable {taxonomy : Taxonomy} {docs : List Document} {doc : Document}

/-- Whether a document is taken by both choices. -/
def isTakenTwice (taxonomy : Taxonomy) (doc : Document) : Bool :=
  taxonomy.isFoundationType doc.type && isOperational taxonomy doc

/-- A path on which every document lies once for each choice that takes it. -/
structure HasRepetitions (taxonomy : Taxonomy) (docs : List Document) (p : CriticalPath) :
    Prop where
  mem_ids : ∀ id ∈ p.path, id ∈ docs.map (·.id)
  count : ∀ doc ∈ docs, p.path.count doc.id =
    (taxonomy.isFoundationType doc.type).toNat + (isOperational taxonomy doc).toNat
  nodup_iff : p.path.Nodup ↔ ∀ doc ∈ docs, isTakenTwice taxonomy doc = false
  weeks : p.weeks = 2 * ((among docs p.path).length + docs.countP (isTakenTwice taxonomy))

/-- The path is the ids of the first choice and then those of the second. -/
theorem path_of (taxonomy : Taxonomy) (docs : List Document) : (of taxonomy docs).path =
    (docs.filter (taxonomy.isFoundationType ·.type)).map (·.id) ++
      (docs.filter (isOperational taxonomy)).map (·.id) :=
  List.map_append

/-- Among documents of distinct ids a choice takes the id of a document once or not at all. -/
theorem count_map_filter (hnd : (docs.map (·.id)).Nodup) (hdoc : doc ∈ docs)
    (p : Document → Bool) : ((docs.filter p).map (·.id)).count doc.id = (p doc).toNat := by
  have hnodup : ((docs.filter p).map (·.id)).Nodup := hnd.sublist (List.filter_sublist.map _)
  rw [hnodup.count]
  simp only [Graph.id_mem_map_filter_iff hnd hdoc]
  cases p doc <;> rfl

/-- Among documents of distinct ids each lies on the path once for every choice that takes it. -/
theorem count_path (hnd : (docs.map (·.id)).Nodup) (hdoc : doc ∈ docs) :
    (of taxonomy docs).path.count doc.id =
    (taxonomy.isFoundationType doc.type).toNat + (isOperational taxonomy doc).toNat := by
  rw [path_of, List.count_append, count_map_filter hnd hdoc, count_map_filter hnd hdoc]

/-- Only ids of documents lie on the path. -/
theorem mem_ids_of_mem_path {id : String} (h : id ∈ (of taxonomy docs).path) :
    id ∈ docs.map (·.id) := by
  rw [path_of, List.mem_append] at h
  rcases h with h | h
  · exact (List.filter_sublist.map _).subset h
  · exact (List.filter_sublist.map _).subset h

/-- A document lies on the path if one of the choices takes it. -/
theorem contains_path (hnd : (docs.map (·.id)).Nodup) (hdoc : doc ∈ docs) :
    (of taxonomy docs).path.contains doc.id =
      (taxonomy.isFoundationType doc.type || isOperational taxonomy doc) := by
  rw [Bool.eq_iff_iff, List.contains_iff_mem, ← List.count_pos_iff, count_path hnd hdoc]
  cases taxonomy.isFoundationType doc.type <;> cases isOperational taxonomy doc <;> decide

/-- A document lies on the path at most once exactly if it is not taken by both choices. -/
theorem count_path_le_one_iff (hnd : (docs.map (·.id)).Nodup) (hdoc : doc ∈ docs) :
    (of taxonomy docs).path.count doc.id ≤ 1 ↔ isTakenTwice taxonomy doc = false := by
  rw [count_path hnd hdoc, isTakenTwice]
  cases taxonomy.isFoundationType doc.type <;> cases isOperational taxonomy doc <;> decide

/-- No id lies on the path twice exactly if no document is taken by both choices. -/
theorem nodup_path_iff (hnd : (docs.map (·.id)).Nodup) :
    (of taxonomy docs).path.Nodup ↔ ∀ doc ∈ docs, isTakenTwice taxonomy doc = false := by
  rw [List.nodup_iff_count_le_one]
  constructor
  · intro h doc hdoc
    exact (count_path_le_one_iff hnd hdoc).1 (h doc.id)
  · intro h id
    by_cases hid : id ∈ (of taxonomy docs).path
    · obtain ⟨doc, hdoc, rfl⟩ := List.mem_map.1 (mem_ids_of_mem_path hid)
      exact (count_path_le_one_iff hnd hdoc).2 (h doc hdoc)
    · rw [List.count_eq_zero_of_not_mem hid]
      exact Nat.zero_le 1

/-- Documents that meet one of two conditions, and those that meet both, are as many as those that
meet each. -/
theorem countP_or_add_countP_and (p q : Document → Bool) (docs : List Document) :
    (docs.countP fun doc => p doc || q doc) + (docs.countP fun doc => p doc && q doc) =
      docs.countP p + docs.countP q := by
  induction docs with
  | nil => rfl
  | cons doc rest ih =>
    simp only [List.countP_cons]
    cases p doc <;> cases q doc <;> simp <;> omega

/-- The path is as long as there are documents on it, and those that are taken by both choices once
more. -/
theorem length_path (hnd : (docs.map (·.id)).Nodup) : (of taxonomy docs).path.length =
    (among docs (of taxonomy docs).path).length + docs.countP (isTakenTwice taxonomy) := by
  have hon : (among docs (of taxonomy docs).path).length =
      docs.countP fun doc => taxonomy.isFoundationType doc.type || isOperational taxonomy doc := by
    rw [among, ← List.countP_eq_length_filter]
    exact List.countP_congr fun doc hdoc => by rw [contains_path hnd hdoc]
  rw [hon, path_of, List.length_append, List.length_map, List.length_map,
    ← List.countP_eq_length_filter, ← List.countP_eq_length_filter]
  exact (countP_or_add_countP_and (taxonomy.isFoundationType ·.type) (isOperational taxonomy)
    docs).symm

/-- **A path repeats exactly the documents that both choices take.** Among documents of distinct
ids, and with any taxonomy, each lies on the path as often as it is of a type of the foundation and
an accepted one of operations. The path has no id twice exactly if no document is both, and its
weeks are two for each document on it and two more for each that is both. -/
theorem repetitions_path (taxonomy : Taxonomy) (docs : List Document)
    (hnd : (docs.map (·.id)).Nodup) :
    HasRepetitions taxonomy docs (of taxonomy docs) where
  mem_ids _ hid := mem_ids_of_mem_path hid
  count _ hdoc := count_path hnd hdoc
  nodup_iff := nodup_path_iff hnd
  weeks := by rw [weeks, length_path hnd, weeksPerStep, Nat.mul_comm]

/-- A mission that is accepted and belongs to operations. -/
def charter : Document :=
  { Document.named "MSN-charter" "MSN" with status := .accepted, domain := some .operations }

/-- A mission, the accepted mission of operations and an accepted workflow: the second lies on the
path twice, in both parts of it. -/
theorem repetitions_path_charter :
    let docs := [Document.named "MSN-core" "MSN", charter,
      { Document.named "WFL-orders" "WFL" with status := .accepted }]
    let p := of .canonical docs
    (docs.map (·.id)).Nodup ∧ p.path = ["MSN-core", "MSN-charter", "MSN-charter", "WFL-orders"] ∧
      p.path.count charter.id = 2 ∧ p.weeks = 2 * ((among docs p.path).length + 1) := by
  intro docs p
  have hnd : (docs.map (·.id)).Nodup := by decide
  have h := repetitions_path .canonical docs hnd
  have htwice : docs.countP (isTakenTwice .canonical) = 1 := by decide
  refine ⟨hnd, by decide, (h.count charter (by simp [docs])).trans (by decide), ?_⟩
  rw [h.weeks, htwice]

/-- The accepted mission of operations alone is repeated, and so four weeks are counted for one
document. -/
theorem not_nodup_path_charter :
    ([charter].map (·.id)).Nodup ∧ ¬(of .canonical [charter]).path.Nodup ∧
      (of .canonical [charter]).weeks ≠ 2 *
        (among [charter] (of .canonical [charter]).path).length := by
  decide

end Dossier.CriticalPath
