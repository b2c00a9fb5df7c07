import Mathlib.Data.List.Forall2
import Dossier.Proofs.Dependency.Dependents
import Dossier.Proofs.Dependency.LongestChain

/-!
# Rearranged references

The order in which a document lists what it refers to, and how often it lists an id, is of no
account for the relation "depends on": documents that are rearranged give the same steps in both
directions (`dependsOn_iff_of_rearranged`, `dependents_eq_of_rearranged`), so the same ids depend
on an id indirectly and the longest chain from it has the same length. Which of several longest
chains is taken does change.
-/

namespace Dossier

variable {docs docs' : List Document} {id target : String}

/-! ## Rearranged documents -/

/-- Two documents that differ at most in the order in which they list what they depend on. -/
structure Document.Reordered (a b : Document) : Prop where
  rest : b = { a with dependsOn := b.dependsOn }
  dependsOn : a.dependsOn.Perm b.dependsOn

/-- Two documents that differ at most in the order in which they list what they depend on, enable
and are related to, and in how often they list it. -/
structure Document.Rearranged (a b : Document) : Prop where
  rest : b = { a with dependsOn := b.dependsOn, enables := b.enables, related := b.related }
  dependsOn : ∀ id, id ∈ a.dependsOn ↔ id ∈ b.dependsOn
  enables : ∀ id, id ∈ a.enables ↔ id ∈ b.enables
  related : ∀ id, id ∈ a.related ↔ id ∈ b.related

namespace Document

variable {a b : Document}

theorem Reordered.enables_eq (h : a.Reordered b) : b.enables = a.enables := by rw [h.rest]

theorem Reordered.related_eq (h : a.Reordered b) : b.related = a.related := by rw [h.rest]

theorem Reordered.symm (h : a.Reordered b) : b.Reordered a where
  rest := by
    conv_rhs => rw [h.rest]
  dependsOn := h.dependsOn.symm

/-- To reorder is to rearrange. -/
theorem Reordered.rearranged (h : a.Reordered b) : a.Rearranged b where
  rest := by
    rw [h.enables_eq, h.related_eq]
    exact h.rest
  dependsOn _ := h.dependsOn.mem_iff
  enables _ := by rw [h.enables_eq]
  related _ := by rw [h.related_eq]

/-- Rearranged documents have one id. -/
theorem Rearranged.id_eq (h : a.Rearranged b) : a.id = b.id := by rw [h.rest]

/-- Rearranged documents link to the same ids. -/
theorem Rearranged.mem_links_iff (h : a.Rearranged b) : id ∈ a.links ↔ id ∈ b.links := by
  simp only [links, List.mem_append, h.dependsOn, h.enables]

/-- Rearranged documents refer to the same ids. -/
theorem Rearranged.refersTo_eq (h : a.Rearranged b) (id : String) :
    a.refersTo id = b.refersTo id := by
  simp only [refersTo, references, List.contains_eq_mem, List.mem_append, h.dependsOn, h.enables,
    h.related]

end Document

/-! ## Rearranged lists of documents -/

/-- Of lists whose elements correspond, what is selected alike and shown alike is the same. -/
theorem map_filter_eq_of_forall₂ {α β γ : Type} {R : α → β → Prop} {l : List α} {l' : List β}
    {p : α → Bool} {q : β → Bool} {f : α → γ} {g : β → γ} (h : List.Forall₂ R l l')
    (hselect : ∀ a b, R a b → p a = q b) (hshow : ∀ a b, R a b → f a = g b) :
    (l.filter p).map f = (l'.filter q).map g := by
  induction h with
  | nil => rfl
  | @cons a b _ _ hab _ ih =>
    rw [List.filter_cons, List.filter_cons, hselect a b hab]
    split
    · rw [List.map_cons, List.map_cons, hshow a b hab, ih]
    · exact ih

/-- Of lists whose elements correspond, an element of the one has its counterpart at the same
position of the other. -/
theorem exists_getElem?_of_forall₂ {α β : Type} {R : α → β → Prop} {l : List α}
    {l' : List β} {a : α}
    {n : Nat} (h : List.Forall₂ R l l') (ha : a ∈ l[n]?) : ∃ b ∈ l'[n]?, R a b := by
  induction h generalizing n with
  | nil => simp at ha
  | @cons first second _ _ hfirst _ ih =>
    cases n with
    | zero =>
      obtain rfl : first = a := by simpa using ha
      exact ⟨second, by simp, hfirst⟩
    | succ n => simpa using ih (by simpa using ha)

/-- Documents each of which is rearranged have the same ids. -/
theorem ids_eq_of_rearranged (h : List.Forall₂ Document.Rearranged docs docs') :
    docs.map (·.id) = docs'.map (·.id) := by
  induction h with
  | nil => rfl
  | cons hdoc _ ih => rw [List.map_cons, List.map_cons, hdoc.id_eq, ih]

namespace Dependency

/-! ## Dependencies of rearranged documents -/

/-- The targets of an id are those of the first document, if it has the id, or else of the
others. -/
theorem targets_cons (doc : Document) (rest : List Document) (id : String) :
    targets (doc :: rest) id = if doc.id = id then doc.dependsOn else targets rest id := by
  by_cases h : doc.id = id <;> simp [targets, document?, h]

/-- In rearranged documents an id depends on the same ids. -/
theorem dependsOn_iff_of_rearranged (h : List.Forall₂ Document.Rearranged docs docs') :
    DependsOn docs id target ↔ DependsOn docs' id target := by
  induction h with
  | nil => rfl
  | cons hdoc _ ih =>
    rw [DependsOn, DependsOn, targets_cons, targets_cons, hdoc.id_eq]
    split
    · exact hdoc.dependsOn target
    · exact ih

/-- In rearranged documents the same ids depend on an id, in the same order. -/
theorem dependents_eq_of_rearranged (h : List.Forall₂ Document.Rearranged docs docs')
    (id : String) : dependents docs id = dependents docs' id := by
  rw [dependents_eq, dependents_eq]
  refine map_filter_eq_of_forall₂ h (fun a b hdoc => ?_) fun a b hdoc => hdoc.id_eq
  simp only [List.contains_eq_mem, hdoc.dependsOn]

/-- What a search in breadth finds follows from what depends on each id. -/
theorem spread_congr (h : ∀ id, dependents docs id = dependents docs' id)
    (known queue : List String) :
    (reverse docs).spread known queue = (reverse docs').spread known queue := by
  have hfresh : ∀ known id, (reverse docs).fresh known id = (reverse docs').fresh known id := by
    intro known id
    rw [Reverse.fresh, Reverse.fresh, ← dependents, ← dependents, h]
  have hlevel : ∀ known queue, level docs known queue = level docs' known queue := by
    intro known queue
    induction queue generalizing known with
    | nil => rfl
    | cons current rest ih => rw [level, level, hfresh, ih]
  refine spread_induction
    (P := fun known queue found => found = (reverse docs').spread known queue) ?_ ?_
    known queue
  · intro known queue hnone
    rw [hlevel] at hnone
    rw [spread_eq_level_append, hnone, List.append_nil, Reverse.spread, List.append_nil]
  · intro known queue later ih
    rw [spread_eq_level_append docs', ← hlevel, ih]

/-- In rearranged documents the same ids depend on an id indirectly, in the same order. -/
theorem indirectDependents_eq_of_rearranged (h : List.Forall₂ Document.Rearranged docs docs')
    (id : String) : indirectDependents docs id = indirectDependents docs' id := by
  show (reverse docs).spread (dependents docs id) (dependents docs id) =
    (reverse docs').spread (dependents docs' id) (dependents docs' id)
  rw [dependents_eq_of_rearranged h id]
  exact spread_congr (dependents_eq_of_rearranged h) _ _

/-- In rearranged documents an id leads into a cycle or in none. -/
theorem leadsIntoCycle_iff_of_rearranged (h : List.Forall₂ Document.Rearranged docs docs') :
    LeadsIntoCycle docs id ↔ LeadsIntoCycle docs' id := by
  have heq : DependsOn docs = DependsOn docs' := by
    funext a b
    exact propext (dependsOn_iff_of_rearranged h)
  simp only [LeadsIntoCycle, LeadsTo, OnCycle, heq]

/-- In rearranged documents the same ids are shallow. -/
theorem shallow_iff_of_rearranged (h : List.Forall₂ Document.Rearranged docs docs') :
    Shallow docs id ↔ Shallow docs' id :=
  ⟨.anti fun _ _ => (dependsOn_iff_of_rearranged h).2,
    .anti fun _ _ => (dependsOn_iff_of_rearranged h).1⟩

end Dependency

end Dossier
