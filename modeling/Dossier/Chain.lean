import Dossier.Dependency.Trace

/-!
# Chains of a collection

The longest chains of dependencies of a collection, with what is risky about them. A document that
lies on a chain found before starts no chain of its own.
-/

namespace Dossier

open Json

/-- What is risky about a chain. -/
inductive ChainRisk where
  | veryLong
  | circular
  | manyDrafts
  deriving DecidableEq, Repr

/-- The wording of a risk. -/
def ChainRisk.text : ChainRisk → String
  | veryLong => "very long chain"
  | circular => "circular dependency"
  | manyDrafts => "many draft documents in chain"

/-- A chain of dependencies. -/
structure Chain where
  ids : List String
  isCircular : Bool
  risks : List ChainRisk
  deriving DecidableEq, Repr

namespace Chain

/-- The number of elements above which a chain is very long. -/
def longAbove : Nat := 10

/-- The drafts on a chain. -/
def drafts (docs : List Document) (ids : List String) : List Document :=
  docs.filter fun doc => ids.contains doc.id && doc.status == .draft

/-- The risks of a chain. -/
def assess (docs : List Document) (ids : List String) (isCircular : Bool) : List ChainRisk :=
  (if ids.length > longAbove then [.veryLong] else []) ++
  (if isCircular then [.circular] else []) ++
  (if (drafts docs ids).length * 2 > ids.length then [.manyDrafts] else [])

/-- The chain of the given ids, which is circular if it ends where it starts. -/
def of (docs : List Document) (ids : List String) : Chain :=
  let isCircular := ids.head? == ids.getLast?
  ⟨ids, isCircular, assess docs ids isCircular⟩

/-- The chains that start at those documents of `rest` which lie on no chain before, each with more
than one element. -/
def collect (t : Dependency.Tracer) (found : Dependency.Found) (covered : List String) :
    (rest : List Document) → List (List String)
  | [] => []
  | doc :: rest =>
    if covered.contains doc.id then collect t found covered rest
    else
      let (ids, found) := t.chain doc.id found
      let later := collect t found (covered ++ ids) rest
      if ids.length > 1 then ids :: later else later

/-- The chains of documents, the longest first. -/
def find (docs : List Document) : List Chain :=
  let chains := (collect (.ofList docs) [] [] docs).map (of docs)
  chains.mergeSort fun a b => b.ids.length ≤ a.ids.length

/-- A chain as an object. -/
def toJson (c : Chain) : Value :=
  .object
    [("chain", .strings c.ids), ("length", .int c.ids.length), ("isCircular", .bool c.isCircular),
      ("riskFactors", .strings (c.risks.map ChainRisk.text))]

end Chain

end Dossier
