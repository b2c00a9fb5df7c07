import Dossier.Taxonomy.Basic

/-!
# The critical path

The order in which a collection is best put into effect: the documents of the foundation first,
then the accepted ones of operations.
-/

namespace Dossier

open Json

/-- What a collection still needs before its path is sound. -/
inductive PathAdvice where
  | completeFoundation
  | defineOperations
  deriving DecidableEq, Repr

/-- The wording of an advice. -/
def PathAdvice.text : PathAdvice → String
  | completeFoundation => "Complete strategic foundation documents (MSN, VSN, VAL, STR) first"
  | defineOperations => "Define core operational processes and organizational structure"

/-- A critical path. -/
structure CriticalPath where
  path : List String
  /-- The drafts that depend on too much. -/
  blockers : List String
  advice : List PathAdvice
  deriving DecidableEq, Repr

namespace CriticalPath

/-- The weeks that a step takes. -/
def weeksPerStep : Nat := 2

/-- The weeks that the path takes. -/
def weeks (p : CriticalPath) : Nat := p.path.length * weeksPerStep

/-- Whether a document is an accepted one of operations. -/
def isOperational (taxonomy : Taxonomy) (doc : Document) : Bool :=
  doc.status == .accepted && taxonomy.domainOf doc == .operations

/-- Whether a document is a draft with more than three dependencies. -/
def isBlocker (doc : Document) : Bool := doc.status == .draft && doc.dependsOn.length > 3

/-- The number of documents of a domain. -/
def countIn (taxonomy : Taxonomy) (docs : List Document) (d : Domain) : Nat :=
  docs.countP (taxonomy.domainOf · == d)

/-- The advice on documents: there should be four strategic ones and six of operations. -/
def adviseOn (taxonomy : Taxonomy) (docs : List Document) : List PathAdvice :=
  (if countIn taxonomy docs taxonomy.strategicDomain < 4 then [.completeFoundation] else []) ++
  (if countIn taxonomy docs .operations < 6 then [.defineOperations] else [])

/-- The critical path of documents. -/
def of (taxonomy : Taxonomy) (docs : List Document) : CriticalPath where
  path :=
    (docs.filter (taxonomy.isFoundationType ·.type) ++ docs.filter (isOperational taxonomy)).map
      (·.id)
  blockers := (docs.filter isBlocker).map (·.id)
  advice := adviseOn taxonomy docs

/-- A critical path as an object. -/
def toJson (p : CriticalPath) : Value :=
  .object
    [("path", .strings p.path), ("estimatedDurationWeeks", .int p.weeks),
      ("blockers", .strings p.blockers),
      ("recommendations", .strings (p.advice.map PathAdvice.text))]

end CriticalPath

end Dossier
