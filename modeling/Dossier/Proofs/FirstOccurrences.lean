/-!
# First occurrences

Where repetitions are dropped, what is left stands where it occurred first. `FirstOccurrences` says
so without saying how they are dropped: which elements are left, and in which order.
-/

namespace Dossier

variable {α : Type} [BEq α] {all once : List α} {a b : α}

/-- The elements of a list, each once, in the order in which they occur there first. -/
structure FirstOccurrences (all once : List α) : Prop where
  mem_iff : ∀ a, a ∈ once ↔ a ∈ all
  ordered : once.Pairwise fun a b => all.idxOf a < all.idxOf b

/-- Elements in the order of their first occurrences are distinct. -/
theorem FirstOccurrences.nodup (h : FirstOccurrences all once) : once.Nodup :=
  h.ordered.imp fun hlt heq => absurd (heq ▸ hlt) (Nat.lt_irrefl _)

/-- Dropping repetitions goes from a list to its first element and those of the others that differ
from it. -/
theorem eraseDups_induction {motive : List α → Prop} (nil : motive [])
    (cons : ∀ a rest, motive (rest.filter fun b => !b == a) → motive (a :: rest)) (l : List α) :
    motive l := by
  induction hlen : l.length using Nat.strongRecOn generalizing l with
  | ind k ih =>
    cases l with
    | nil => exact nil
    | cons a rest =>
      have hshort := List.length_filter_le (fun b => !b == a) rest
      rw [List.length_cons] at hlen
      exact cons a rest (ih _ (by omega) _ rfl)

/-- What is left without repetitions stands in the order of the list. -/
theorem eraseDups_sublist (l : List α) : l.eraseDups.Sublist l := by
  induction l using eraseDups_induction with
  | nil => exact .slnil
  | cons a rest ih =>
    rw [List.eraseDups_cons]
    exact .cons_cons a (ih.trans List.filter_sublist)

variable [LawfulBEq α]

/-- Elements that pass a test occur first in the same order as they do without the others. -/
theorem idxOf_lt_of_filter {p : α → Bool} (ha : p a = true) (hb : p b = true)
    (hlt : (all.filter p).idxOf a < (all.filter p).idxOf b) : all.idxOf a < all.idxOf b := by
  induction all with
  | nil => exact absurd hlt (Nat.lt_irrefl _)
  | cons first rest ih =>
    by_cases hfirst : p first = true
    · rw [List.filter_cons_of_pos hfirst] at hlt
      simp only [List.idxOf_cons] at hlt ⊢
      cases hb' : first == b <;> cases ha' : first == a <;> simp_all
    · have hne : ∀ c, p c = true → (first == c) = false := fun c hc =>
        beq_eq_false_iff_ne.2 fun heq => hfirst (heq ▸ hc)
      rw [List.filter_cons_of_neg hfirst] at hlt
      rw [List.idxOf_cons, List.idxOf_cons, hne a ha, hne b hb]
      exact Nat.succ_lt_succ (ih hlt)

/-- Dropping repetitions leaves the first occurrences. -/
theorem firstOccurrences_eraseDups (l : List α) : FirstOccurrences l l.eraseDups where
  mem_iff _ := List.mem_eraseDups
  ordered := by
    induction l using eraseDups_induction with
    | nil => exact .nil
    | cons a rest ih =>
      have hother : ∀ b ∈ (rest.filter fun b => !b == a).eraseDups, (!b == a) = true := fun b hb =>
        (List.mem_filter.1 (List.mem_eraseDups.1 hb)).2
      have hpass : ∀ b ∈ (rest.filter fun b => !b == a).eraseDups, (a == b) = false :=
        fun b hb => by
        have hne := hother b hb
        rw [Bool.not_eq_true', beq_eq_false_iff_ne] at hne
        exact beq_eq_false_iff_ne.2 hne.symm
      rw [List.eraseDups_cons]
      refine List.pairwise_cons.2 ⟨fun b hb => ?_, ih.imp_of_mem fun hb hc hlt => ?_⟩
      · rw [List.idxOf_cons_self, List.idxOf_cons, hpass b hb]
        exact Nat.succ_pos _
      · rw [List.idxOf_cons, List.idxOf_cons, hpass _ hb, hpass _ hc]
        exact Nat.succ_lt_succ (idxOf_lt_of_filter (hother _ hb) (hother _ hc) hlt)

end Dossier
