import Mathlib.Data.List.Count
import Mathlib.Data.List.Nodup
import Dossier.Collection
import Dossier.Dependency.Basic

/-!
# Laws of collections

A collection looks an id up through the positions it registered. The look-up finds the first
document with that id (`get?_ofList`), and the ids registered again are those that occur at least
twice (`mem_duplicateIds_ofList`).
-/

namespace Dossier

/-- Sorting strings and dropping repetitions keeps which strings there are. -/
theorem Taxonomy.mem_inOrder {s : String} {ss : List String} : s ∈ inOrder ss ↔ s ∈ ss := by
  rw [inOrder, List.mem_eraseDups, List.mem_mergeSort]

/-- Sorted strings ascend. -/
theorem Taxonomy.pairwise_mergeSort (ss : List String) :
    (ss.mergeSort (· ≤ ·)).Pairwise (· ≤ ·) := by
  refine (List.pairwise_mergeSort ?_ ?_ ss).imp of_decide_eq_true
  · simp only [decide_eq_true_eq]
    exact fun _ _ _ => String.le_trans
  · simp only [Bool.or_eq_true, decide_eq_true_eq]
    exact String.le_total

/-- Sorting strings and dropping repetitions undoes any change of their order. -/
theorem Taxonomy.inOrder_eq_of_perm {ss ss' : List String} (h : ss.Perm ss') :
    inOrder ss = inOrder ss' := by
  have hperm : (ss.mergeSort (· ≤ ·)).Perm (ss'.mergeSort (· ≤ ·)) :=
    (List.mergeSort_perm ss _).trans (h.trans (List.mergeSort_perm ss' _).symm)
  have hsorted : ss.mergeSort (· ≤ ·) = ss'.mergeSort (· ≤ ·) :=
    hperm.eq_of_pairwise (fun _ _ _ _ => String.le_antisymm) (pairwise_mergeSort ss)
      (pairwise_mergeSort ss')
  rw [inOrder, inOrder, hsorted]

/-- The documents whose ids are among those given. -/
def among (docs : List Document) (ids : List String) : List Document :=
  docs.filter fun doc => ids.contains doc.id

/-- Documents of distinct ids have as many ids among those given as these have distinct ids of
documents. -/
theorem length_among {docs : List Document} {ids distinct : List String}
    (hnd : (docs.map (·.id)).Nodup)
    (hdistinct : distinct.Nodup) (hmem : ∀ id, id ∈ distinct ↔ id ∈ ids ∧ id ∈ docs.map (·.id)) :
    (among docs ids).length = distinct.length := by
  have hids : ((among docs ids).map (·.id)).Nodup := hnd.sublist (List.filter_sublist.map _)
  have hperm : ((among docs ids).map (·.id)).Perm distinct := by
    refine (List.perm_ext_iff_of_nodup hids hdistinct).2 fun id => ?_
    rw [hmem, among, List.mem_map, List.mem_map]
    simp only [List.mem_filter, List.contains_iff_mem]
    constructor
    · rintro ⟨doc, ⟨hdoc, hid⟩, rfl⟩
      exact ⟨hid, doc, hdoc, rfl⟩
    · rintro ⟨hid, doc, hdoc, rfl⟩
      exact ⟨doc, ⟨hdoc, hid⟩, rfl⟩
  rw [← hperm.length_eq, List.length_map]

namespace Collection

variable {docs : List Document} {id : String}

/-! ## The register -/

/-- An id that is entered has the position it had, or else the one it is entered at. -/
theorem Register.lookup_enter (r : Register) (entered : String) (n : Nat) (id : String) :
    (r.enter entered n).positions.lookup id =
      (r.positions.lookup id).or (if id = entered then some n else none) := by
  unfold enter
  split
  · next p hp =>
    by_cases h : id = entered
    · simp [h, hp]
    · simp [h]
  · rw [List.lookup_append, List.lookup_cons, List.lookup_nil]
    by_cases h : id = entered
    · simp [h]
    · simp [h, beq_eq_false_iff_ne.2 h]

/-- An id is entered again if it has a position already. -/
theorem Register.mem_again_enter (r : Register) (entered : String) (n : Nat) (id : String) :
    id ∈ (r.enter entered n).again ↔
      id ∈ r.again ∨ id = entered ∧ (r.positions.lookup id).isSome := by
  unfold enter
  split
  · next p hp =>
    rw [List.mem_cons, or_comm]
    refine or_congr_right ⟨fun h => ⟨h, by simp [h, hp]⟩, And.left⟩
  · next hp =>
    refine ⟨.inl, fun h => ?_⟩
    rcases h with h | ⟨rfl, hsome⟩
    · exact h
    · simp [hp] at hsome

/-- The register of documents gives each id the position of its first document. -/
theorem Register.lookup_enterAll (r : Register) (n : Nat) (docs : List Document) (id : String) :
    (r.enterAll n docs).positions.lookup id =
      (r.positions.lookup id).or ((docs.findIdx? (·.id == id)).map (· + n)) := by
  induction docs generalizing r n with
  | nil => simp [enterAll]
  | cons doc rest ih =>
    rw [enterAll, ih, lookup_enter, List.findIdx?_cons, Option.or_assoc]
    congr 1
    by_cases h : doc.id = id
    · simp [h]
    · simp only [beq_eq_false_iff_ne.2 h, if_neg (Ne.symm h), Option.none_or, Option.map_map,
        Bool.false_eq_true, if_false]
      congr 1
      funext k
      simp only [Function.comp_apply]
      omega

/-- The ids registered again are those that have a position and occur, or occur twice. -/
theorem Register.mem_again_enterAll (r : Register) (n : Nat) (docs : List Document) (id : String) :
    id ∈ (r.enterAll n docs).again ↔
      id ∈ r.again ∨ (r.positions.lookup id).isSome ∧ id ∈ docs.map (·.id) ∨
        2 ≤ (docs.map (·.id)).count id := by
  induction docs generalizing r n with
  | nil => simp [enterAll]
  | cons doc rest ih =>
    have hcount : id ∈ rest.map (·.id) ↔ 1 ≤ (rest.map (·.id)).count id := List.count_pos_iff.symm
    rw [enterAll, ih, mem_again_enter, lookup_enter, List.map_cons, List.mem_cons, List.count_cons,
      hcount]
    generalize (rest.map (·.id)).count id = c
    by_cases h : id = doc.id
    · cases r.positions.lookup id with
      | none =>
        have hc : 1 ≤ c ∨ 2 ≤ c ↔ 1 ≤ c := by omega
        simp [h, hc]
      | some p => simp [h]
    · simp [h, beq_eq_false_iff_ne.2 (Ne.symm h)]

/-! ## Looking up -/

/-- The position of an id is that of the first document with it. -/
theorem position?_ofList (docs : List Document) (id : String) :
    (ofList docs).position? id = docs.findIdx? (·.id == id) := by
  rw [position?, ofList, Register.lookup_enterAll]
  simp

/-- A look-up finds the first document with an id. -/
theorem get?_ofList (docs : List Document) (id : String) :
    (ofList docs).get? id = Dependency.document? docs id := by
  rw [Dependency.document?, List.find?_eq_bind_findIdx?_getElem?, get?, position?_ofList]
  rfl

/-- A collection has the ids of its documents. -/
theorem contains_ofList_iff : (ofList docs).contains id ↔ id ∈ docs.map (·.id) := by
  rw [contains, position?_ofList, List.findIdx?_isSome, List.any_eq_true, List.mem_map]
  simp only [beq_iff_eq]

/-- The duplicate ids are those that occur at least twice. -/
theorem mem_duplicateIds_ofList :
    id ∈ (ofList docs).duplicateIds ↔ 2 ≤ (docs.map (·.id)).count id := by
  rw [ofList, Taxonomy.mem_inOrder, Register.mem_again_enterAll]
  simp

/-- Without duplicate ids no two documents have one id. -/
theorem nodup_ids_of_duplicateIds_eq_nil (h : (ofList docs).duplicateIds = []) :
    (docs.map (·.id)).Nodup := by
  refine List.nodup_iff_count_le_one.2 fun id => Nat.le_of_not_lt fun hlt => ?_
  have hmem := mem_duplicateIds_ofList.2 hlt
  simp [h] at hmem

end Collection

end Dossier
