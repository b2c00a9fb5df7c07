import Dossier.Dependency.Peeling

/-!
# Longest chains of dependencies

A chain follows dependencies from an id until it meets an id that depends on nothing, comes back to
an id it has been at, or has gone as deep as it may. `longestChain` is the longest chain from an
id, the first of equally long ones. It looks at every path.

`Tracer` finds the same chains without looking at every path twice: the chain of an id that leads
into no cycle does not depend on the way to it, so it is kept and used again where it fits into the
depth that is left.
-/

namespace Dossier.Dependency

/-- The number of ids that a chain goes through before it is cut. -/
def depthLimit : Nat := 512

/-- The longest of the lists, the first of equally long ones. -/
def longest (chains : List (List String)) : List String :=
  chains.foldl (fun best chain => if chain.length > best.length then chain else best) []

/-- The longest chain from an id at the end of `path`, when `room` more ids may be gone through. -/
def chainFrom (docs : List Document) : (room : Nat) → (path : List String) → String → List String
  | 0, _, id => [id]
  | room + 1, path, id =>
    if path.contains id then [id]
    else id :: longest ((targets docs id).map (chainFrom docs room (id :: path)))

/-- The longest chain from an id. -/
def longestChain (docs : List Document) (id : String) : List String :=
  chainFrom docs depthLimit [] id

/-! ## Keeping chains -/

/-- Chains that were found before, by the id they start from. -/
abbrev Found := List (String × List String)

/-- Documents together with the ids from which no cycle is reached. -/
structure Tracer where
  documents : List Document
  acyclic : List String

/-- A tracer for the given documents. -/
def Tracer.ofList (docs : List Document) : Tracer := ⟨docs, acyclicIds docs⟩

namespace Tracer

/-- A chain found before that fits into the room that is left. -/
def reuse? (t : Tracer) (found : Found) (room : Nat) (id : String) : Option (List String) :=
  if t.acyclic.contains id then (found.lookup id).filter (·.length ≤ room) else none

/-- Keeps a chain, if it starts from an id that leads into no cycle and was not cut. -/
def keep (t : Tracer) (found : Found) (room : Nat) (id : String) (chain : List String) : Found :=
  if t.acyclic.contains id && chain.length ≤ room then (id, chain) :: found else found

/-- The longest chain from an id at the end of `path`, given the chains found before. -/
def chainFrom (t : Tracer) :
    (room : Nat) → (path : List String) → String → Found → List String × Found
  | 0, _, id, found => ([id], found)
  | room + 1, path, id, found =>
    if path.contains id then ([id], found)
    else
      match t.reuse? found (room + 1) id with
      | some chain => (chain, found)
      | none =>
        match targets t.documents id with
        | [] => ([id], found)
        | ids =>
          let (best, found) :=
            ids.foldl
              (fun (best, found) target =>
                let (chain, found) := chainFrom t room (id :: path) target found
                (if chain.length > best.length then chain else best, found))
              ([], found)
          (id :: best, t.keep found (room + 1) id (id :: best))

/-- The longest chain from an id, given the chains found before. -/
def chain (t : Tracer) (id : String) (found : Found) : List String × Found :=
  t.chainFrom depthLimit [] id found

/-- The longest chains from ids one after another. -/
def chains (t : Tracer) (found : Found) : List String → List (List String)
  | [] => []
  | id :: rest =>
    let (chain, found) := t.chain id found
    chain :: t.chains found rest

end Tracer

end Dossier.Dependency
