import Dossier.Dependency.Reverse
import Dossier.Document.Basic

/-!
# Dependencies between documents

The relation "depends on" between ids, read in both directions: what an id depends on is said by
the first document with that id, and what depends on an id is said by every document. Ids may
dangle, repeat and form cycles.
-/

namespace Dossier.Dependency

/-- The first document with a given id. -/
def document? (docs : List Document) (id : String) : Option Document := docs.find? (·.id == id)

/-- The ids that an id depends on, as its first document lists them. -/
def targets (docs : List Document) (id : String) : List String :=
  match document? docs id with
  | some doc => doc.dependsOn
  | none => []

/-- What depends on which id, by the documents. -/
def reverse (docs : List Document) : Reverse := .ofSources (·.id) (·.dependsOn) docs

/-- The ids of the documents that depend on an id, in the order of the documents. -/
def dependents (docs : List Document) (id : String) : List String := (reverse docs).under id

/-! ## What depends on an id indirectly -/

namespace Reverse

/-- The sources that are not among those known. -/
def unknown (m : Reverse) (known : List String) : List String :=
  m.sources.filter fun source => !known.contains source

/-- The ids that depend on one of `current` and are not known, each once. -/
def fresh (m : Reverse) (known : List String) (current : String) : List String :=
  ((m.under current).filter fun id => !known.contains id).eraseDups

/-- What is known more of leaves less unknown. -/
theorem unknown_append_length_lt {m : Reverse} {known more : List String} {id : String}
    (hid : id ∈ m.sources) (hmore : id ∈ more) (hknown : id ∉ known) :
    (m.unknown (known ++ more)).length < (m.unknown known).length := by
  have hless : m.unknown (known ++ more) = (m.unknown known).filter fun id =>
      !more.contains id := by
    simp [unknown, List.filter_filter, Bool.and_comm]
  rw [hless]
  refine List.length_filter_lt_length_iff_exists.2 ⟨id, ?_, ?_⟩
  · simp [unknown, hid, hknown]
  · simp [hmore]

/-- The ids reached from those waiting in `queue` by steps against the arrows, in the order in
which a search in breadth finds them. Known ids are not searched again. -/
def spread (m : Reverse) (known : List String) (queue : List String) : List String :=
  match queue with
  | [] => []
  | current :: rest =>
    let more := m.fresh known current
    if _none : more = [] then m.spread known rest
    else more ++ m.spread (known ++ more) (rest ++ more)
termination_by ((m.unknown known).length, queue.length)
decreasing_by
  · exact Prod.Lex.right _ (Nat.lt_succ_self _)
  · refine Prod.Lex.left _ _ ?_
    obtain ⟨id, hid⟩ := List.exists_mem_of_ne_nil _ _none
    have hid' := hid
    simp only [more, fresh, List.mem_eraseDups, List.mem_filter] at hid'
    exact unknown_append_length_lt (mem_sources_of_mem_under hid'.1) hid (by simpa using hid'.2)

end Reverse

/-- The ids that depend on an id over one or more documents in between, without those that depend
on it directly. -/
def indirectDependents (docs : List Document) (id : String) : List String :=
  let m := reverse docs
  let direct := m.under id
  m.spread direct direct

end Dossier.Dependency
