import Mathlib.Data.String.Basic
import Dossier.Json.Value

/-!
# Laws of members

Members that are read stand in ascending order of their keys, so no key has two of them. Setting,
dropping and filtering members keeps that order, and a look-up by one key does not see what is done
to others. Sorting members of distinct keys only rearranges them (`sorted_perm`).
-/

namespace Dossier.Json.Members

variable {members : Members} {key k : String} {v : Value}

/-- Members in ascending order of their keys. -/
def Ascending (members : Members) : Prop := members.Pairwise (·.1 < ·.1)

/-! ## Order -/

/-- A member that is among others after one was set is this one, or was among them. -/
theorem mem_put {m : String × Value} (h : m ∈ members.put key v) : m = (key, v) ∨ m ∈ members := by
  induction members with
  | nil => exact .inl (List.mem_singleton.1 h)
  | cons first rest ih =>
    unfold put at h
    split at h
    · exact List.mem_cons.1 h
    split at h
    · exact (List.mem_cons.1 h).imp_right (.tail _)
    · rcases List.mem_cons.1 h with rfl | h
      · exact .inr (.head _)
      · exact (ih h).imp_right (.tail _)

/-- Setting a member keeps the order. -/
theorem Ascending.put (h : members.Ascending) : (members.put key v).Ascending := by
  induction members with
  | nil => exact List.pairwise_singleton ..
  | cons first rest ih =>
    obtain ⟨hfirst, hrest⟩ := List.pairwise_cons.1 h
    unfold Members.put
    split
    case isTrue hlt =>
      refine List.pairwise_cons.2 ⟨fun m hm => ?_, h⟩
      rcases List.mem_cons.1 hm with rfl | hm
      · exact hlt
      · exact lt_trans hlt (hfirst m hm)
    case isFalse hge =>
      split
      case isTrue heq =>
        rw [beq_iff_eq.1 heq]
        exact List.pairwise_cons.2 ⟨hfirst, hrest⟩
      case isFalse hne =>
        refine List.pairwise_cons.2 ⟨fun m hm => ?_, ih hrest⟩
        rcases mem_put hm with rfl | hm
        · exact lt_of_le_of_ne (not_lt.1 hge) (fun heq => hne (beq_iff_eq.2 heq.symm))
        · exact hfirst m hm

/-- Members that are sorted are in order. -/
theorem ascending_sorted (members : Members) : members.sorted.Ascending := by
  have hfold (done : Members) (hdone : done.Ascending) :
      Ascending (members.foldl (fun done m => done.put m.1 m.2) done) := by
    induction members generalizing done with
    | nil => exact hdone
    | cons m rest ih => exact ih _ hdone.put
  exact hfold [] .nil

/-- Setting a member of a new key adds it. -/
theorem put_perm (h : ∀ w, (key, w) ∉ members) :
    (members.put key v).Perm ((key, v) :: members) := by
  induction members with
  | nil => exact .refl _
  | cons first rest ih =>
    unfold put
    split
    case isTrue => exact .refl _
    case isFalse =>
      split
      case isTrue heq => exact absurd (beq_iff_eq.1 heq ▸ .head _) (h first.2)
      case isFalse =>
        have hrest := ih fun w hw => h w (.tail _ hw)
        exact (hrest.cons first).trans (.swap _ _ _)

/-- Members of distinct keys are rearranged when they are sorted. -/
theorem sorted_perm (h : (members.map (·.1)).Nodup) : members.sorted.Perm members := by
  have hfold (done : Members) (hkeys : ((done ++ members).map (·.1)).Nodup) :
      (members.foldl (fun done m => done.put m.1 m.2) done).Perm (done ++ members) := by
    clear h
    induction members generalizing done with
    | nil => rw [List.append_nil]; exact .refl _
    | cons m rest ih =>
      have hmiddle : (done ++ m :: rest).Perm (m :: done ++ rest) := List.perm_middle
      have hkeys' := (hmiddle.map (·.1)).nodup_iff.1 hkeys
      have hnew : ∀ w, (m.1, w) ∉ done := fun w hw =>
        (List.nodup_cons.1 hkeys').1 (List.mem_map.2 ⟨_, List.mem_append_left rest hw, rfl⟩)
      have hput : (done.put m.1 m.2).Perm (m :: done) := put_perm hnew
      have hrest := ih _ (((hput.append_right rest).map (·.1)).nodup_iff.2 hkeys')
      exact (hrest.trans (hput.append_right rest)).trans hmiddle.symm
  exact hfold [] h

/-- Members in order are the same if they are the same up to order. -/
theorem Ascending.eq_of_perm {members' : Members} (h : members.Ascending) (h' : members'.Ascending)
    (hperm : members.Perm members') : members = members' :=
  hperm.eq_of_pairwise (fun _ _ _ _ hlt hgt => absurd hlt (lt_asymm hgt)) h h'

/-- Dropping a key keeps the order. -/
theorem Ascending.drop (h : members.Ascending) (key : String) : (members.drop key).Ascending :=
  h.sublist List.filter_sublist

/-! ## Looking up -/

/-- The first member is found by its key, and the others by other keys. -/
theorem get?_cons (m : String × Value) (rest : Members) (k : String) :
    get? (m :: rest) k = if k = m.1 then some m.2 else get? rest k := by
  rw [get?, List.lookup_cons]
  by_cases hk : k = m.1
  · simp [hk]
  · simp [hk, get?, beq_eq_false_iff_ne.2 hk]

/-- What a key finds is one of the members. -/
theorem mem_of_get? (h : members.get? k = some v) : (k, v) ∈ members := by
  induction members with
  | nil => cases h
  | cons first rest ih =>
    rw [get?_cons] at h
    split at h
    case isTrue hk =>
      cases h
      rw [hk]
      exact .head _
    case isFalse => exact .tail _ (ih h)

/-- Among members in order, no later one has the key of the first. -/
theorem Ascending.get?_rest_eq_none {first : String × Value} (h : Ascending (first :: members)) :
    members.get? first.1 = none := by
  refine Option.eq_none_iff_forall_not_mem.2 fun v hv => ?_
  exact absurd ((List.pairwise_cons.1 h).1 _ (mem_of_get? hv)) (lt_irrefl first.1)

/-- A key finds nothing where no member has it. -/
theorem get?_eq_none_iff : members.get? k = none ↔ ∀ v, (k, v) ∉ members := by
  rw [get?, List.lookup_eq_none_iff]
  constructor
  · intro h v hv
    simpa using h (k, v) hv
  · rintro h ⟨k', v⟩ hv
    rw [bne_iff_ne]
    rintro rfl
    exact h v hv

/-- Among members in order, each is found by its key. -/
theorem Ascending.get?_of_mem (h : members.Ascending) (hm : (k, v) ∈ members) :
    members.get? k = some v := by
  induction members with
  | nil => exact absurd hm List.not_mem_nil
  | cons first rest ih =>
    obtain ⟨hfirst, hrest⟩ := List.pairwise_cons.1 h
    rw [get?_cons]
    rcases List.mem_cons.1 hm with rfl | hm
    · exact if_pos rfl
    · rw [if_neg (hfirst _ hm).ne', ih hrest hm]

/-- A look-up finds what was set by its key. -/
theorem get?_put_self : (members.put key v).get? key = some v := by
  induction members with
  | nil => rw [put, get?_cons, if_pos rfl]
  | cons first rest ih =>
    unfold put
    split
    case isTrue => rw [get?_cons, if_pos rfl]
    case isFalse =>
      split
      case isTrue => rw [get?_cons, if_pos rfl]
      case isFalse hne => rw [get?_cons, if_neg (mt beq_iff_eq.2 hne), ih]

/-- A look-up by one key does not see another that is set. -/
theorem get?_put_of_ne (hk : k ≠ key) : (members.put key v).get? k = members.get? k := by
  induction members with
  | nil => rw [put, get?_cons, if_neg hk]
  | cons first rest ih =>
    unfold put
    split
    case isTrue => rw [get?_cons, if_neg hk]
    case isFalse =>
      split
      case isTrue heq =>
        have hfirst : k ≠ first.1 := fun h => hk (h.trans (beq_iff_eq.1 heq).symm)
        rw [get?_cons, get?_cons, if_neg hk, if_neg hfirst]
      case isFalse => rw [get?_cons, get?_cons, ih]

/-- Among members in order, a key finds in those that pass a test what it finds in all, if that
passes. -/
theorem Ascending.get?_filter (h : members.Ascending) (p : String × Value → Bool) (k : String) :
    get? (members.filter p) k = (members.get? k).filter fun v => p (k, v) := by
  induction members with
  | nil => rfl
  | cons first rest ih =>
    have hrest : Ascending rest := (List.pairwise_cons.1 h).2
    rw [List.filter_cons, get?_cons]
    by_cases hk : k = first.1
    · subst hk
      have hnone : get? (rest.filter p) first.1 = none :=
        Ascending.get?_rest_eq_none (h.sublist (List.filter_sublist.cons_cons first))
      split
      case isTrue hp => rw [get?_cons]; simp [Option.filter, hp]
      case isFalse hp => rw [hnone]; simp [Option.filter, hp]
    · rw [if_neg hk, ← ih hrest]
      split
      case isTrue => rw [get?_cons, if_neg hk]
      case isFalse => rfl

/-- Setting a member of a key that no test passes leaves those that pass as they are. -/
theorem filter_put {p : String × Value → Bool} (hkey : ∀ w, p (key, w) = false) :
    (members.put key v).filter p = members.filter p := by
  have hset (rest : Members) : List.filter p ((key, v) :: rest) = rest.filter p :=
    List.filter_cons_of_neg (by rw [hkey]; decide)
  induction members with
  | nil => exact hset []
  | cons first rest ih =>
    unfold put
    split
    case isTrue => exact hset _
    case isFalse =>
      split
      case isTrue heq =>
        have hfirst : p first = false := by
          rw [← Prod.eta first, ← beq_iff_eq.1 heq]
          exact hkey first.2
        rw [hset, List.filter_cons_of_neg (Bool.eq_false_iff.1 hfirst)]
      case isFalse => rw [List.filter_cons, List.filter_cons, ih]

/-- A look-up by one key does not see another that is dropped. -/
theorem Ascending.get?_drop_of_ne (h : members.Ascending) (hk : k ≠ key) :
    (members.drop key).get? k = members.get? k := by
  rw [Members.drop, h.get?_filter]
  cases members.get? k <;> simp [Option.filter, hk]

end Dossier.Json.Members
