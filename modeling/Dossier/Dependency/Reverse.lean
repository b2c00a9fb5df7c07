/-!
# Dependencies read backwards

A map from ids to what depends on them, filled in one pass over sources and their targets. A target
that a source lists more than once is noted once.
-/

namespace Dossier.Dependency

/-- Sources listed under their targets. -/
abbrev Reverse := List (String × List String)

namespace Reverse

/-- The sources listed under a target. -/
def under (m : Reverse) (target : String) : List String := (m.lookup target).getD []

/-- Lists a source under a target, after those that are listed there. -/
def enter (m : Reverse) (source target : String) : Reverse :=
  match m with
  | [] => [(target, [source])]
  | (k, sources) :: rest =>
    if k == target then (k, sources ++ [source]) :: rest
    else (k, sources) :: enter rest source target

/-- Lists a source under those of its targets that have not been seen. -/
def enterAll (m : Reverse) (source : String) (seen : List String) : List String → Reverse
  | [] => m
  | target :: rest =>
    if seen.contains target then m.enterAll source seen rest
    else (m.enter source target).enterAll source (target :: seen) rest

/-- The map that is filled from sources, each with its name and its targets. -/
def ofSources {α : Type} (name : α → String) (targets : α → List String) (sources : List α) :
    Reverse :=
  sources.foldl (fun m a => m.enterAll (name a) [] (targets a)) []

/-- All sources that are listed. -/
def sources (m : Reverse) : List String := m.flatMap (·.2)

/-- A source that is listed under a target is one of all. -/
theorem mem_sources_of_mem_under {m : Reverse} {source target : String}
    (h : source ∈ m.under target) : source ∈ m.sources := by
  unfold under at h
  cases hlookup : m.lookup target with
  | none =>
    rw [hlookup] at h
    cases h
  | some listed =>
    rw [hlookup] at h
    obtain ⟨before, after, rfl, -⟩ := List.lookup_eq_some_iff.1 hlookup
    exact List.mem_flatMap.2 ⟨_, List.mem_append_right _ (.head _), h⟩

end Reverse

end Dossier.Dependency
