import Dossier.Dependency.Basic
import Dossier.Share

/-!
# The impact of a change

A change of a document affects those that depend on it, directly or over others. How risky it is
follows from their share of all documents.
-/

namespace Dossier

open Json

/-- The risk of a change. -/
inductive Risk where
  | low
  | medium
  | high
  | critical
  deriving DecidableEq, Repr

namespace Risk

/-- The risk of affecting a given share of the documents. -/
def ofShare (s : Share) : Risk :=
  if s.exceeds 1 2 then critical
  else if s.exceeds 3 10 then high
  else if s.exceeds 1 10 then medium
  else low

/-- The name of a risk. -/
def name : Risk → String
  | low => "low"
  | medium => "medium"
  | high => "high"
  | critical => "critical"

end Risk

/-- The impact of a change of the document with the given id. -/
structure Impact where
  id : String
  direct : List String
  indirect : List String
  risk : Risk
  deriving DecidableEq, Repr

namespace Impact

/-- The number of documents affected. -/
def total (i : Impact) : Nat := i.direct.length + i.indirect.length

/-- The impact of a change of `id` on documents. The id need not be one of theirs. -/
def of (docs : List Document) (id : String) : Impact :=
  let direct := Dependency.dependents docs id
  let indirect := Dependency.indirectDependents docs id
  ⟨id, direct, indirect, .ofShare ⟨direct.length + indirect.length, docs.length⟩⟩

/-- An impact as an object. -/
def toJson (i : Impact) : Value :=
  .object
    [("documentId", .string i.id), ("directlyAffected", .strings i.direct),
      ("transitivelyAffected", .strings i.indirect), ("totalImpact", .int i.total),
      ("riskLevel", .string i.risk.name)]

end Impact

end Dossier
