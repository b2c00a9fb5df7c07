import Mathlib.Data.String.Basic
import Mathlib.Order.Std
import Dossier.Proofs.Query.Result

/-!
# Sorting of matches

A query sorts by a key, in either direction. Documents with the same key keep the order that they
had, also where the direction is reversed (`isStablySorted_sorted`).
-/

namespace Dossier.Query

/-! ## Stable sorting -/

section Stable

variable {α : Type}

/-- A list sorted in an order. Elements that may stand either way keep the order they had. -/
structure IsStablySorted (before : α → α → Prop) (l sorted : List α) : Prop where
  perm : sorted.Perm l
  pairwise : sorted.Pairwise before
  stable : ∀ p : α → Bool, (∀ a b, p a → p b → before a b) → sorted.filter p = l.filter p

/-- Merging sorts, and keeps the order of elements that may stand either way. -/
theorem isStablySorted_mergeSort {le : α → α → Bool} (htrans : ∀ a b c, le a b → le b c → le a c)
    (htotal : ∀ a b, le a b || le b a) (l : List α) :
    IsStablySorted (fun a b => le a b = true) l (l.mergeSort le) where
  perm := l.mergeSort_perm le
  pairwise := List.pairwise_mergeSort htrans htotal l
  stable p hp := by
    have hordered : (l.filter p).Pairwise fun a b => le a b = true :=
      List.pairwise_of_forall_mem_list fun a ha b hb =>
        hp a b (List.mem_filter.1 ha).2 (List.mem_filter.1 hb).2
    have hkept : (l.filter p).Sublist (l.mergeSort le) :=
      List.sublist_mergeSort htrans htotal hordered List.filter_sublist
    have hsub : (l.filter p).Sublist ((l.mergeSort le).filter p) := by
      have hfiltered := hkept.filter p
      simpa only [List.filter_filter, Bool.and_self] using hfiltered
    exact (hsub.eq_of_length ((l.mergeSort_perm le).filter p).length_eq.symm).symm

/-- What is sorted in an order is sorted in any other that agrees with it on the list. -/
theorem IsStablySorted.congr {before before' : α → α → Prop} {l sorted : List α}
    (h : IsStablySorted before l sorted) (hiff : ∀ a ∈ l, ∀ b ∈ l, before a b ↔ before' a b) :
    IsStablySorted before' l sorted where
  perm := h.perm
  pairwise := h.pairwise.imp_of_mem fun ha hb hab =>
    (hiff _ (h.perm.mem_iff.1 ha) _ (h.perm.mem_iff.1 hb)).1 hab
  stable p hp := by
    classical
    -- of what passes the test, only what is in the list counts
    have hfilter {l' : List α} (hl' : ∀ a ∈ l', a ∈ l) :
        l'.filter p = l'.filter fun a => p a && decide (a ∈ l) := by
      refine List.filter_congr fun a ha => ?_
      rw [decide_eq_true (hl' a ha), Bool.and_true]
    rw [hfilter fun a ha => h.perm.mem_iff.1 ha, hfilter fun a ha => ha]
    refine h.stable _ fun a b ha hb => ?_
    rw [Bool.and_eq_true, decide_eq_true_iff] at ha hb
    exact (hiff a ha.2 b hb.2).2 (hp a b ha.1 hb.1)

end Stable

/-! ## Keys -/

/-- Whether the key of a document is no greater than that of another. Titles and statuses are
compared in lower case. -/
def SortField.AtMost (field : SortField) (a b : Document) : Prop :=
  match field with
  | .created => a.created ≤ b.created
  | .updated => a.updated ≤ b.updated
  | .title => Text.lower a.title ≤ Text.lower b.title
  | .type => a.type ≤ b.type
  | .status => Text.lower a.status.name ≤ Text.lower b.status.name
  | .relationships => a.dependsOn.length + a.enables.length ≤ b.dependsOn.length + b.enables.length

/-- Whether a document may stand before another. -/
def SortOrder.Follows (order : SortOrder) (field : SortField) (a b : Document) : Prop :=
  match order with
  | .ascending => field.AtMost a b
  | .descending => field.AtMost b a

instance instLawfulOrderOrdString : Std.LawfulOrderOrd String where
  isLE_compare _ _ := isLE_compareOfLessAndEq Std.le_antisymm Std.not_le fun _ _ => Std.le_total
  isGE_compare _ _ := isGE_compareOfLessAndEq Std.le_antisymm Std.not_le fun _ _ => Std.le_total

variable {field : SortField} {order : SortOrder} {a b c : Document}

/-- Documents are compared by their keys. -/
theorem isLE_compare_iff : (field.compare a b).isLE = true ↔ field.AtMost a b := by
  cases field with
  | relationships => simp [SortField.compare, SortField.AtMost, Std.isLE_compare, Document.links]
  | _ => exact Std.isLE_compare

/-- Documents are compared by their keys the other way, too. -/
theorem isGE_compare_iff : (field.compare a b).isGE = true ↔ field.AtMost b a := by
  cases field with
  | relationships => simp [SortField.compare, SortField.AtMost, Std.isGE_compare, Document.links]
  | _ => exact Std.isGE_compare

/-- A sort lets a document stand before another where their keys do. -/
theorem allows_iff : order.allows field a b = true ↔ order.Follows field a b := by
  cases order with
  | ascending => exact isLE_compare_iff
  | descending => exact isGE_compare_iff

/-- Of any two documents one may stand before the other. -/
theorem SortOrder.follows_total (order : SortOrder) (field : SortField) (a b : Document) :
    order.Follows field a b ∨ order.Follows field b a := by
  have htotal : field.AtMost a b ∨ field.AtMost b a := by
    cases field <;> exact le_total _ _
  cases order with
  | ascending => exact htotal
  | descending => exact htotal.symm

/-- What may stand before a document may stand before all that follow it. -/
theorem SortOrder.Follows.trans (hab : order.Follows field a b) (hbc : order.Follows field b c) :
    order.Follows field a c := by
  have htrans {a b c : Document} (hab : field.AtMost a b)
      (hbc : field.AtMost b c) : field.AtMost a c := by
    cases field <;> exact le_trans hab hbc
  cases order with
  | ascending => exact htrans hab hbc
  | descending => exact htrans hbc hab

/-- Documents sorted by a key in a direction are stably sorted. -/
theorem isStablySorted_sorted {o : Options} (hfield : o.sortBy = some field)
    (docs : List Document) : IsStablySorted (o.sortOrder.Follows field) docs (o.sorted docs) := by
  have hsorted : o.sorted docs = docs.mergeSort (o.sortOrder.allows field) := by
    rw [Options.sorted, hfield]
  have hfollows : o.sortOrder.Follows field = fun a b => o.sortOrder.allows field a b = true :=
    funext₂ fun _ _ => propext allows_iff.symm
  rw [hsorted, hfollows]
  refine isStablySorted_mergeSort ?_ ?_ docs
  · intro a b c hab hbc
    exact allows_iff.2 ((allows_iff.1 hab).trans (allows_iff.1 hbc))
  · intro a b
    rw [Bool.or_eq_true, allows_iff, allows_iff]
    exact o.sortOrder.follows_total field a b

end Dossier.Query
