import Mathlib.Data.List.Basic
import Dossier.Dependency.Index

/-!
# Laws of reverse maps

A reverse map that is filled in one pass lists under a target the sources that a look through all
of them finds, each where it stands among them (`under_ofSources`). Its targets are what some
source lists (`mem_targets_ofSources`).
-/

namespace Dossier.Dependency

namespace Reverse

variable {α : Type} {m : Reverse} {name : α → String} {targets : α → List String}
  {sources : List α} {source target k : String} {seen : List String}

/-! ## One source -/

/-- Under the target of the first entry its sources are listed, and under others as in the rest. -/
theorem under_cons (k : String) (listed : List String) (rest : Reverse) (target : String) :
    under ((k, listed) :: rest) target = if target = k then listed else rest.under target := by
  rw [under, List.lookup_cons]
  by_cases h : target = k
  · simp [h]
  · simp [h, beq_eq_false_iff_ne.2 h, under]

/-- A source is listed last under the target that it is entered for, and nothing else changes. -/
theorem under_enter (m : Reverse) (source k target : String) : (m.enter source k).under target =
    m.under target ++ if target = k then [source] else [] := by
  induction m with
  | nil =>
    rw [enter, under_cons]
    rfl
  | cons first rest ih =>
    obtain ⟨k', listed⟩ := first
    rw [enter, under_cons]
    by_cases hk : k' = k
    · rw [if_pos (beq_iff_eq.2 hk), under_cons, hk]
      split
      · rfl
      · exact (List.append_nil _).symm
    · rw [if_neg (mt beq_iff_eq.1 hk), under_cons, ih]
      by_cases htarget : target = k'
      · rw [if_pos htarget, if_pos htarget, if_neg (htarget ▸ hk), List.append_nil]
      · rw [if_neg htarget, if_neg htarget]

/-- A target that has been seen is passed over. -/
theorem mem_cons_and_not_mem_iff {first : String} {rest : List String} (hseen : first ∈ seen) :
    target ∈ first :: rest ∧ target ∉ seen ↔ target ∈ rest ∧ target ∉ seen := by
  refine and_congr_left fun hnew => ?_
  rw [List.mem_cons, or_iff_right]
  rintro rfl
  exact hnew hseen

/-- A source is listed last, and once, under those of its targets that have not been seen. -/
theorem under_enterAll (m : Reverse) (source : String) (seen ts : List String) (target : String) :
    (m.enterAll source seen ts).under target =
      m.under target ++ if target ∈ ts ∧ target ∉ seen then [source] else [] := by
  induction ts generalizing m seen with
  | nil => simp [enterAll]
  | cons first rest ih =>
    rw [enterAll]
    by_cases hseen : first ∈ seen
    · rw [if_pos (List.contains_iff_mem.2 hseen), ih,
        if_congr (mem_cons_and_not_mem_iff hseen) rfl rfl]
    · rw [if_neg (mt List.contains_iff_mem.1 hseen), ih, under_enter, List.append_assoc]
      by_cases htarget : target = first
      · subst htarget
        simp [hseen]
      · simp [htarget]

/-! ## All sources -/

/-- **Under a target the sources are listed that list it**, in their order. -/
theorem under_ofSources (name : α → String) (targets : α → List String) (sources : List α)
    (target : String) : (ofSources name targets sources).under target =
      (sources.filter fun a => (targets a).contains target).map name := by
  suffices hgeneral : ∀ m : Reverse,
      (sources.foldl (fun m a => m.enterAll (name a) [] (targets a)) m).under target =
        m.under target ++ (sources.filter fun a => (targets a).contains target).map name from
    hgeneral []
  induction sources with
  | nil => simp
  | cons a rest ih =>
    intro m
    rw [List.foldl_cons, ih, under_enterAll, List.append_assoc, List.filter_cons]
    by_cases h : target ∈ targets a
    · simp [h]
    · simp [h]

/-- The targets of a map are those that sources are entered for. -/
theorem mem_targets_enter :
    target ∈ (m.enter source k).map (·.1) ↔ target ∈ m.map (·.1) ∨ target = k := by
  induction m with
  | nil => simp [enter]
  | cons first rest ih =>
    obtain ⟨k', listed⟩ := first
    rw [enter]
    by_cases hk : k' = k
    · rw [if_pos (beq_iff_eq.2 hk), List.map_cons, List.map_cons, List.mem_cons, hk, or_right_comm,
        or_self]
    · rw [if_neg (mt beq_iff_eq.1 hk), List.map_cons, List.mem_cons, ih, List.map_cons,
        List.mem_cons, or_assoc]

theorem mem_targets_enterAll {ts : List String} : target ∈ (m.enterAll source seen ts).map (·.1) ↔
    target ∈ m.map (·.1) ∨ target ∈ ts ∧ target ∉ seen := by
  induction ts generalizing m seen with
  | nil => simp [enterAll]
  | cons first rest ih =>
    rw [enterAll]
    by_cases hseen : first ∈ seen
    · rw [if_pos (List.contains_iff_mem.2 hseen), ih, mem_cons_and_not_mem_iff hseen]
    · rw [if_neg (mt List.contains_iff_mem.1 hseen), ih, mem_targets_enter]
      by_cases htarget : target = first
      · subst htarget
        simp [hseen]
      · simp [htarget]

/-- The targets of a map that is filled from sources are those that some source lists. -/
theorem mem_targets_ofSources : target ∈ (ofSources name targets sources).map (·.1) ↔
    ∃ a ∈ sources, target ∈ targets a := by
  suffices hgeneral : ∀ m : Reverse,
      target ∈ (sources.foldl (fun m a => m.enterAll (name a) [] (targets a)) m).map (·.1) ↔
        target ∈ m.map (·.1) ∨ ∃ a ∈ sources, target ∈ targets a from
    (hgeneral []).trans (or_iff_right List.not_mem_nil)
  induction sources with
  | nil => simp
  | cons a rest ih =>
    intro m
    rw [List.foldl_cons, ih, mem_targets_enterAll, or_assoc]
    simp only [List.mem_cons, exists_eq_or_imp, List.not_mem_nil, not_false_eq_true, and_true]

end Reverse

/-- What depends on an id are the documents that list it, in their order. -/
theorem dependents_eq (docs : List Document) (id : String) :
    dependents docs id = (docs.filter (·.dependsOn.contains id)).map (·.id) :=
  Reverse.under_ofSources _ _ docs id

namespace Index

/-- What depends on an id by an index are the ids whose entries list it, in the order of the
index. -/
theorem dependents_eq (ix : Index) (target : String) : ix.dependents target =
    (ix.filter fun (_, doc) => doc.dependsOn.contains target).map (·.1) :=
  Reverse.under_ofSources _ _ ix target

end Index

end Dossier.Dependency
