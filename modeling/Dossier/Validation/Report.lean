import Dossier.Conformance
import Dossier.Registry
import Dossier.Validation.Check

/-!
# Reports of validation

A document is valid if no issue is an error. A collection is valid if its documents are and no two
of them have one id.
-/

namespace Dossier.Validation

open Json

/-- The issues of a document, and the level of the collection it was validated in. -/
structure Report where
  issues : List Issue
  conformance : Conformance
  deriving DecidableEq, Repr

namespace Report

/-- The issues that are errors. -/
def errors (r : Report) : List Issue := r.issues.filter (·.severity == .error)

/-- The issues that are warnings. -/
def warnings (r : Report) : List Issue := r.issues.filter (·.severity == .warning)

/-- Whether there are no errors. -/
def isValid (r : Report) : Bool := r.errors.isEmpty

/-- A report as an object. -/
def toJson (r : Report) : Value :=
  .object
    [("isValid", .bool r.isValid), ("errors", .array (r.errors.map Issue.toJson)),
      ("warnings", .array (r.warnings.map Issue.toJson)),
      ("conformanceLevel", .string r.conformance.name)]

end Report

/-- Validates a document, among those of a collection if one is given. -/
def validate (taxonomy : Taxonomy) (c : Option Collection) (doc : Document) : Report :=
  ⟨checkDocument taxonomy c doc, .ofSize ((c.map Collection.size).getD 0)⟩

/-- The report on a document of a collection. -/
structure Entry where
  id : String
  source : Option String
  report : Report
  deriving DecidableEq, Repr

/-- An entry as an object. -/
def Entry.toJson (e : Entry) : Value :=
  .object <|
    [("id", .string e.id)] ++ Document.optionMember "source" (e.source.map .string) ++
    [("validation", e.report.toJson)]

/-- The report on a collection. -/
structure CollectionReport where
  entries : List Entry
  /-- The issues that lie in no single document. -/
  issues : List Issue
  conformance : Conformance
  deriving DecidableEq, Repr

/-- Whether a collection is valid. -/
def CollectionReport.isValid (r : CollectionReport) : Bool :=
  r.issues.isEmpty && r.entries.all (·.report.isValid)

/-- A report on a collection as an object. -/
def CollectionReport.toJson (r : CollectionReport) : Value :=
  .object
    [("overallValid", .bool r.isValid), ("documentResults", .array (r.entries.map Entry.toJson)),
      ("collectionErrors", .array (r.issues.map Issue.toJson)),
      ("conformanceLevel", .string r.conformance.name)]

/-- Validates every document of a collection, and the collection itself. -/
def validateCollection (taxonomy : Taxonomy) (c : Collection) : CollectionReport where
  entries := c.documents.map fun doc => ⟨doc.id, doc.source, validate taxonomy (some c) doc⟩
  issues := c.duplicateIds.map .duplicateId
  conformance := .ofSize c.size

end Dossier.Validation
