import Mathlib.Algebra.BigOperators.Group.List.Basic
import Mathlib.Data.String.Basic
import Dossier.Proofs.Collection
import Dossier.Proofs.Graph.Metrics
import Dossier.Query.Statistics

/-!
# Laws of statistics

What is counted has its number of occurrences, and nothing else has an entry (`lookup_countEach`).
None of the figures depends on the order of the documents, and of the ages, which come in that
order, only the average is shown (`Statistics.toJson_eq_of_reordered`).
-/

namespace Dossier

namespace Query

/-! ## Counts -/

section Counts

variable {α : Type} [BEq α] [LawfulBEq α] {occurrences occurrences' : List α} {key : α}

/-- A key has the number of its occurrences, if it occurs. -/
theorem lookup_countEach (keys occurrences : List α) (key : α) :
    (countEach keys occurrences).lookup key =
      if key ∈ keys ∧ key ∈ occurrences then some (occurrences.count key) else none := by
  induction keys with
  | nil => rfl
  | cons first rest ih =>
    have hcons : countEach (first :: rest) occurrences =
        (if first ∈ occurrences then [(first, occurrences.count first)] else []) ++
          countEach rest occurrences := by
      by_cases hfirst : first ∈ occurrences <;> simp [countEach, List.count_eq_zero, hfirst]
    rw [hcons, List.lookup_append, ih]
    by_cases heq : key = first
    · subst heq
      by_cases hkey : key ∈ occurrences <;> simp [hkey]
    · by_cases hfirst : first ∈ occurrences <;>
        simp [hfirst, heq, List.lookup_cons, beq_eq_false_iff_ne.2 heq]

/-- Where all that occurs is among the keys, the count of a key is the number of its
occurrences. -/
theorem getD_lookup_countEach {keys : List α} (hkeys : key ∈ occurrences → key ∈ keys) :
    ((countEach keys occurrences).lookup key).getD 0 = occurrences.count key := by
  rw [lookup_countEach]
  split
  case isTrue => rfl
  case isFalse hnot =>
    have hnone : key ∉ occurrences := fun hkey => hnot ⟨hkeys hkey, hkey⟩
    rw [List.count_eq_zero.2 hnone]
    rfl

omit [LawfulBEq α] in
/-- Counts do not depend on the order of the occurrences. -/
theorem countEach_eq_of_perm (keys : List α) (h : occurrences.Perm occurrences') :
    countEach keys occurrences = countEach keys occurrences' := by
  simp only [countEach, h.count_eq]

end Counts

/-! ## The first in an order -/

section First

variable {α : Type} {before : α → α → Prop}

/-- An element of a list that no other comes before. -/
structure IsFirst (before : α → α → Prop) (l : List α) (m : α) : Prop where
  mem : m ∈ l
  none_before : ∀ a ∈ l, ¬before a m

variable [IsStrictTotalOrder α before]

/-- In any order of a list the same element is the first. -/
theorem IsFirst.eq_of_perm {l l' : List α} {m m' : α} (hm : IsFirst before l m)
    (hm' : IsFirst before l' m') (h : l.Perm l') : m = m' := by
  have hnot : ¬before m m' := hm'.none_before m (h.mem_iff.1 hm.mem)
  have hnot' : ¬before m' m := hm.none_before m' (h.mem_iff.2 hm'.mem)
  exact Std.Trichotomous.trichotomous m m' hnot hnot'

/-- Of an element and those that replace it one after another, where they come before it, the first
is left. -/
theorem isFirst_foldl [DecidableRel before] (s : α) (rest : List α) :
    IsFirst before (s :: rest) (rest.foldl (fun m a => if before a m then a else m) s) := by
  induction rest generalizing s with
  | nil =>
    refine ⟨.head _, fun a ha => ?_⟩
    rw [List.mem_singleton.1 ha]
    exact irrefl s
  | cons a rest ih =>
    obtain ⟨kept, hkept⟩ : ∃ kept, kept = if before a s then a else s := ⟨_, rfl⟩
    -- the one that is kept is one of the two, and neither comes before it
    have hmem : kept = a ∨ kept = s := by
      rw [hkept]
      split <;> simp
    have hnot : ¬before a kept ∧ ¬before s kept := by
      rw [hkept]
      split
      case isTrue ha => exact ⟨irrefl a, asymm ha⟩
      case isFalse ha => exact ⟨ha, irrefl s⟩
    obtain ⟨hfound, hnone⟩ := ih kept
    have hkeptNot := hnone kept (.head _)
    rw [List.foldl_cons, ← hkept]
    constructor
    case mem =>
      rcases List.mem_cons.1 hfound with hfound | hfound
      · rw [hfound]
        rcases hmem with rfl | rfl <;> simp
      · exact .tail _ (.tail _ hfound)
    case none_before =>
      intro b hb
      rcases List.mem_cons.1 hb with rfl | hb
      · exact IsOrderConnected.neg_trans hnot.2 hkeptNot
      rcases List.mem_cons.1 hb with rfl | hb
      · exact IsOrderConnected.neg_trans hnot.1 hkeptNot
      · exact hnone b (.tail _ hb)

/-- In any order of a list the same element is left in the end. -/
theorem foldl_eq_of_perm [DecidableRel before] {s s' : α} {rest rest' : List α}
    (h : (s :: rest).Perm (s' :: rest')) :
    rest.foldl (fun m a => if before a m then a else m) s =
      rest'.foldl (fun m a => if before a m then a else m) s' :=
  (isFirst_foldl s rest).eq_of_perm (isFirst_foldl s' rest') h

end First

/-- The least string is the same in any order. -/
theorem least?_eq_of_perm {ss ss' : List String} (h : ss.Perm ss') : least? ss = least? ss' := by
  cases ss with
  | nil => rw [h.nil_eq]
  | cons s rest =>
    cases ss' with
    | nil => exact absurd h.eq_nil (List.cons_ne_nil _ _)
    | cons s' rest' => exact congrArg some (foldl_eq_of_perm h)

/-- The greatest string is the same in any order. -/
theorem greatest?_eq_of_perm {ss ss' : List String} (h : ss.Perm ss') :
    greatest? ss = greatest? ss' := by
  cases ss with
  | nil => rw [h.nil_eq]
  | cons s rest =>
    cases ss' with
    | nil => exact absurd h.eq_nil (List.cons_ne_nil _ _)
    | cons s' rest' =>
      -- the greatest is the first in the converse order
      exact congrArg some (foldl_eq_of_perm h)

/-- Among strings there is a least one, which no other comes before. -/
theorem exists_least? {ss : List String} (h : ss ≠ []) :
    ∃ s, least? ss = some s ∧ IsFirst (· < ·) ss s := by
  cases ss with
  | nil => exact absurd rfl h
  | cons s rest => exact ⟨_, rfl, isFirst_foldl s rest⟩

/-- Among strings there is a greatest one, which comes before no other. -/
theorem exists_greatest? {ss : List String} (h : ss ≠ []) :
    ∃ s, greatest? ss = some s ∧ IsFirst (fun a b => b < a) ss s := by
  cases ss with
  | nil => exact absurd rfl h
  | cons s rest => exact ⟨_, rfl, isFirst_foldl s rest⟩

/-! ## Statistics of documents in another order -/

/-- Two statistics that differ at most in the order of the ages. -/
structure Statistics.Reordered (a b : Statistics) : Prop where
  rest : b = { a with ages := b.ages }
  ages : a.ages.Perm b.ages

/-- The average age does not depend on the order of the ages. -/
theorem Statistics.averageAge_eq_of_reordered {a b : Statistics} (h : a.Reordered b) :
    a.averageAge = b.averageAge := by
  have hsum : a.ages.foldl (· + ·) 0 = b.ages.foldl (· + ·) 0 := by
    rw [← List.sum_eq_foldl, ← List.sum_eq_foldl, h.ages.sum_eq]
  rw [averageAge, averageAge, h.ages.isEmpty_eq, h.ages.length_eq, hsum]

/-- What is shown of statistics does not depend on the order of the ages. -/
theorem Statistics.toJson_eq_of_reordered {a b : Statistics} (h : a.Reordered b) :
    a.toJson = b.toJson := by
  have haverage := averageAge_eq_of_reordered h
  rw [toJson, toJson, haverage, h.rest]
  rfl

variable {r r' : Registry}

/-- Of documents in another order the statistics are the same, but for the order of the ages. -/
theorem statistics_reordered_of_perm (htaxonomy : r.taxonomy = r'.taxonomy)
    (h : r.documents.Perm r'.documents) (today : Date) :
    (statistics r today).Reordered (statistics r' today) := by
  have hages : (statistics r today).ages.Perm (statistics r' today).ages := h.filterMap _
  have hdomains : r.domains.Perm r'.domains := by
    rw [Registry.domains, Registry.domains, htaxonomy]
    exact h.map _
  refine ⟨?_, hages⟩
  simp only [statistics, total_eq_sum, h.length_eq, Taxonomy.inOrder_eq_of_perm (h.map (·.type)),
    countEach_eq_of_perm _ (h.map (·.type)), countEach_eq_of_perm _ hdomains,
    countEach_eq_of_perm _ (h.map (·.status)), (h.map (·.dependsOn.length)).sum_eq,
    (h.map (·.enables.length)).sum_eq, (h.map (·.conflictsWith.length)).sum_eq,
    least?_eq_of_perm (h.map (·.created)), greatest?_eq_of_perm (h.map (·.created))]

end Query

end Dossier
