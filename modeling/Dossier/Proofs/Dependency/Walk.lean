import Mathlib.Data.List.Chain
import Mathlib.Data.List.Perm.Subperm
import Mathlib.Logic.Relation
import Dossier.Dependency.Basic

/-!
# Walks along dependencies

The ids of a collection form a graph: `DependsOn` is the step from an id to what its first document
lists, `LeadsTo` a walk of any number of steps, and a cycle is a walk back to where it started. An
id is `Grounded` if every walk from it ends. A grounded id leads into no cycle
(`Grounded.not_leadsIntoCycle`), and no walk from it meets an id twice
(`Grounded.nodup_of_isWalk`). Documents are only so many, so an id that leads into no cycle is
grounded (`grounded_iff_not_leadsIntoCycle`).
-/

namespace Dossier.Dependency

variable {docs : List Document} {id target : String} {ids : List String}

/-! ## Steps and walks -/

/-- An id depends on the ids that its first document lists. -/
def DependsOn (docs : List Document) (id target : String) : Prop := target ∈ targets docs id

instance (docs : List Document) : DecidableRel (DependsOn docs) :=
  fun id target => inferInstanceAs (Decidable (target ∈ targets docs id))

/-- An id leads to those that walks along dependencies arrive at, itself among them. -/
def LeadsTo (docs : List Document) : String → String → Prop :=
  Relation.ReflTransGen (DependsOn docs)

/-- An id leads back to itself over at least one dependency. -/
def OnCycle (docs : List Document) (id : String) : Prop := Relation.TransGen (DependsOn docs) id id

/-- An id leads to one that leads back to itself. -/
def LeadsIntoCycle (docs : List Document) (id : String) : Prop :=
  ∃ turn, LeadsTo docs id turn ∧ OnCycle docs turn

/-- A list of ids each of which depends on the next. -/
abbrev IsWalk (docs : List Document) (ids : List String) : Prop := ids.IsChain (DependsOn docs)

/-- A walk from an id back to itself that meets no other id twice. -/
structure IsCycle (docs : List Document) (cycle : List String) : Prop where
  two_le : 2 ≤ cycle.length
  closed : cycle.head? = cycle.getLast?
  walk : IsWalk docs cycle
  nodup : cycle.dropLast.Nodup

instance (docs : List Document) (cycle : List String) : Decidable (IsCycle docs cycle) :=
  decidable_of_iff
    (2 ≤ cycle.length ∧ cycle.head? = cycle.getLast? ∧ IsWalk docs cycle ∧ cycle.dropLast.Nodup)
    ⟨fun ⟨h₁, h₂, h₃, h₄⟩ => ⟨h₁, h₂, h₃, h₄⟩, fun ⟨h₁, h₂, h₃, h₄⟩ => ⟨h₁, h₂, h₃, h₄⟩⟩

/-- A document that depends on others, for examples. -/
def sample (id : String) (dependsOn : List String) : Document :=
  { Document.named id "MSN" with owner := "staff", dependsOn }

/-- The targets of a document that is the first with its id are those it lists. -/
theorem targets_of_document? {doc : Document} (h : document? docs id = some doc) :
    targets docs id = doc.dependsOn := by
  rw [targets, h]

/-- What an id depends on is listed by a document with that id. -/
theorem exists_document_of_dependsOn (h : DependsOn docs id target) :
    ∃ doc ∈ docs, target ∈ doc.dependsOn ∧ doc.id = id := by
  cases hd : document? docs id with
  | none => simp [DependsOn, targets, hd] at h
  | some doc =>
    rw [DependsOn, targets_of_document? hd] at h
    exact ⟨doc, List.mem_of_find?_eq_some hd, h, by simpa using List.find?_some hd⟩

/-- Only documents have targets. -/
theorem mem_ids_of_dependsOn (h : DependsOn docs id target) : id ∈ docs.map (·.id) := by
  obtain ⟨doc, hdoc, -, hid⟩ := exists_document_of_dependsOn h
  exact hid ▸ List.mem_map_of_mem hdoc

/-- On a walk every id leads to all later ones. -/
theorem IsWalk.pairwise (h : IsWalk docs ids) :
    ids.Pairwise (Relation.TransGen (DependsOn docs)) :=
  (h.imp fun _ _ => Relation.TransGen.single).pairwise

/-- The first id of a walk leads to every id on it. -/
theorem IsWalk.leadsTo (h : IsWalk docs (id :: ids)) {later : String} (hl : later ∈ id :: ids) :
    LeadsTo docs id later := by
  rcases List.mem_cons.1 hl with rfl | hl
  · exact .refl
  · exact (List.rel_of_pairwise_cons h.pairwise hl).to_reflTransGen

/-- On a walk all ids but the last are ids of documents. -/
theorem IsWalk.mem_ids_of_mem_dropLast (h : IsWalk docs ids) :
    ∀ met ∈ ids.dropLast, met ∈ docs.map (·.id) := by
  induction ids with
  | nil => simp
  | cons first rest ih =>
    cases rest with
    | nil => simp
    | cons next rest =>
      obtain ⟨hstep, hrest⟩ := List.isChain_cons_cons.1 h
      rw [List.dropLast_cons_cons, List.forall_mem_cons]
      exact ⟨mem_ids_of_dependsOn hstep, ih hrest⟩

/-- A cycle has a first id. -/
theorem IsCycle.exists_head {cycle : List String} (h : IsCycle docs cycle) :
    ∃ id, cycle.head? = some id := by
  have htwo := h.two_le
  cases cycle with
  | nil => simp at htwo
  | cons id rest => exact ⟨id, rfl⟩

/-- The first id of a cycle leads back to itself. -/
theorem IsCycle.onCycle {cycle : List String} (h : IsCycle docs cycle)
    (hid : cycle.head? = some id) : OnCycle docs id := by
  obtain ⟨htwo, hclosed, hwalk, -⟩ := h
  cases cycle with
  | nil => cases hid
  | cons first rest =>
    cases hid
    have hrest : rest ≠ [] := fun h => by simp [h] at htwo
    have hlast : rest.getLast hrest = id := by
      rw [List.head?_cons, List.getLast?_cons, List.getLast?_eq_some_getLast hrest] at hclosed
      exact (Option.some.inj hclosed).symm
    have hmem : id ∈ rest := hlast ▸ List.getLast_mem hrest
    exact List.rel_of_pairwise_cons hwalk.pairwise hmem

/-! ## Grounded ids -/

/-- An id from which every walk ends: all that it depends on is grounded. -/
inductive Grounded (docs : List Document) : String → Prop
  | intro {id : String} (h : ∀ target ∈ targets docs id, Grounded docs target) : Grounded docs id

/-- An id without targets is grounded. -/
theorem Grounded.of_targets_eq_nil (h : targets docs id = []) : Grounded docs id :=
  .intro fun target ht => by simp [h] at ht

/-- What a grounded id depends on is grounded. -/
theorem Grounded.of_dependsOn (h : Grounded docs id) (ht : DependsOn docs id target) :
    Grounded docs target := by
  cases h with
  | intro h => exact h target ht

/-- What a grounded id leads to is grounded. -/
theorem Grounded.of_leadsTo (h : Grounded docs id) (hl : LeadsTo docs id target) :
    Grounded docs target := by
  induction hl with
  | refl => exact h
  | tail _ hstep ih => exact ih.of_dependsOn hstep

/-- A grounded id does not lead back to itself. -/
theorem Grounded.not_onCycle (h : Grounded docs id) : ¬ OnCycle docs id := by
  induction h with
  | intro _ ih =>
    intro hcycle
    obtain ⟨next, hstep, hback⟩ := Relation.TransGen.head'_iff.1 hcycle
    exact ih next hstep (.tail' hback hstep)

/-- A grounded id leads into no cycle. -/
theorem Grounded.not_leadsIntoCycle (h : Grounded docs id) : ¬ LeadsIntoCycle docs id :=
  fun ⟨_, hl, hcycle⟩ => (h.of_leadsTo hl).not_onCycle hcycle

/-- A walk from a grounded id meets no id twice. -/
theorem Grounded.nodup_of_isWalk (h : Grounded docs id) (hw : IsWalk docs (id :: ids)) :
    (id :: ids).Nodup := by
  refine List.Pairwise.imp_of_mem (fun {a b} ha _ hab heq => ?_) hw.pairwise
  subst heq
  exact (h.of_leadsTo (hw.leadsTo ha)).not_onCycle hab

/-- A walk without repetition along documents is no longer than their list. -/
theorem length_le_of_nodup (hnd : ids.Nodup) (h : ∀ id ∈ ids, id ∈ docs.map (·.id)) :
    ids.length ≤ docs.length := by
  simpa using (hnd.subperm h).length_le

/-- From an id that is not grounded walks go on as long as one likes. -/
theorem exists_isWalk_of_not_grounded (h : ¬ Grounded docs id) (n : Nat) :
    ∃ ids, ids.length = n ∧ IsWalk docs (id :: ids) := by
  induction n generalizing id with
  | zero => exact ⟨[], rfl, .singleton id⟩
  | succ n ih =>
    obtain ⟨target, ht, hnext⟩ : ∃ target, DependsOn docs id target ∧ ¬ Grounded docs target := by
      by_contra hall
      exact h (.intro fun target ht => by_contra fun hnext => hall ⟨target, ht, hnext⟩)
    obtain ⟨ids, hlen, hwalk⟩ := ih hnext
    exact ⟨target :: ids, congrArg Nat.succ hlen, .cons_cons ht hwalk⟩

/-- An id that leads into no cycle is grounded: a walk from it meets no id twice, so it has an
end. -/
theorem grounded_of_not_leadsIntoCycle (h : ¬ LeadsIntoCycle docs id) : Grounded docs id := by
  by_contra hid
  obtain ⟨ids, hlen, hwalk⟩ := exists_isWalk_of_not_grounded hid (docs.length + 1)
  have hnodup : (id :: ids).Nodup := by
    refine List.Pairwise.imp_of_mem (fun {a b} ha _ hab heq => ?_) hwalk.pairwise
    subst heq
    exact h ⟨a, hwalk.leadsTo ha, hab⟩
  have hle :=
    length_le_of_nodup (hnodup.sublist (List.dropLast_sublist _)) hwalk.mem_ids_of_mem_dropLast
  rw [List.length_dropLast, List.length_cons, hlen] at hle
  omega

/-- Exactly the ids that lead into no cycle are grounded. -/
theorem grounded_iff_not_leadsIntoCycle : Grounded docs id ↔ ¬ LeadsIntoCycle docs id :=
  ⟨Grounded.not_leadsIntoCycle, grounded_of_not_leadsIntoCycle⟩

/-- Where no id leads back to itself every id is grounded. -/
theorem grounded_of_forall_not_onCycle (h : ∀ id, ¬ OnCycle docs id) (id : String) :
    Grounded docs id :=
  grounded_of_not_leadsIntoCycle fun ⟨turn, _, hturn⟩ => h turn hturn

/-- An id that leads back to itself is that of a document. -/
theorem OnCycle.mem_ids (h : OnCycle docs id) : id ∈ docs.map (·.id) := by
  obtain ⟨next, hstep, -⟩ := Relation.TransGen.head'_iff.1 h
  exact mem_ids_of_dependsOn hstep

/-- Where all documents are grounded no id leads back to itself. -/
theorem not_onCycle_of_forall_grounded (h : ∀ doc ∈ docs, Grounded docs doc.id) (id : String) :
    ¬ OnCycle docs id := fun hid => by
  obtain ⟨doc, hdoc, rfl⟩ := List.mem_map.1 hid.mem_ids
  exact (h doc hdoc).not_onCycle hid

end Dossier.Dependency
