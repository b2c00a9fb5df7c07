import Dossier.Collection
import Dossier.Dependency.Trace

/-!
# Finding a cycle of dependencies

`findCycle` searches in depth from an id and answers with the first cycle it closes: the path from
an id back to itself. Every id is expanded once, and no path gets longer than the depth limit.
-/

namespace Dossier.Dependency

/-- The part of a path, kept from its end, that leads from an id to the end, and then that id
again. -/
def cycleOn (path : List String) (id : String) : List String :=
  id :: (path.takeWhile (· != id)).reverse ++ [id]

/-- Searches on from an id at the end of `path`, which is kept from its end. The search stops at a
cycle, or else answers with the ids visited so far. -/
def search (c : Collection) : (room : Nat) → (path visited : List String) → String →
    Except (List String) (List String)
  | room, path, visited, id =>
    if path.contains id then .error (cycleOn path id)
    else if visited.contains id then .ok visited
    else
      match room with
      | 0 => .ok (id :: visited)
      | room + 1 =>
        match c.get? id with
        | none => .ok (id :: visited)
        | some doc => doc.dependsOn.foldlM (search c room (id :: path)) (id :: visited)

/-- The first cycle that is found from an id. -/
def findCycle? (c : Collection) (id : String) : Option (List String) :=
  match search c depthLimit [] [] id with
  | .error cycle => some cycle
  | .ok _ => none

end Dossier.Dependency
