import Dossier.Calendar.Date
import Dossier.Dependency.Cycle
import Dossier.Validation.Issue
import Dossier.Validation.Pattern

/-!
# Checks of a document

Each check answers with the issues it finds, in a fixed order. Nothing fails: whatever a document
is like, it is described by issues.
-/

namespace Dossier.Validation

/-- The relationships that types are expected to have. -/
def expectedRelationships : List ExpectedRelationship :=
  [⟨"STR", "depends_on", ["MSN", "VSN"], "depend on Mission (MSN) and Vision (VSN)",
      "Link to MSN and VSN documents"⟩,
    ⟨"OBJ", "depends_on", ["STR"], "depend on Strategy (STR)", "Link to relevant STR document"⟩,
    ⟨"PER", "enables", ["CJM"], "enable Customer Journey Maps (CJM)",
      "Link to CJM documents that use these personas"⟩]

/-- An issue, if something holds. -/
def issueIf (holds : Bool) (issue : Issue) : List Issue := if holds then [issue] else []

/-! ## The document by itself -/

/-- Whether the dates of a document can be read and the first comes after the second. -/
def datesReversed (doc : Document) : Bool :=
  match Date.read? doc.created, Date.read? doc.updated with
  | some created, some updated => updated.before created
  | _, _ => false

/-- The issues of the id, type, version, dates and owner of a document. -/
def checkStructure (doc : Document) : List Issue :=
  issueIf (!isDocumentId doc.id) .invalidId ++
  issueIf (doc.type != idType doc.id) (.typeIdMismatch doc.type (idType doc.id)) ++
  issueIf (!isVersion doc.version) .invalidVersion ++
  issueIf (datesReversed doc) .invalidDateSequence ++
  issueIf (Text.isAllBlank doc.owner) .missingOwner

/-- The domain that a document gives itself and the one of its type, if they differ. -/
def domainConflict? (taxonomy : Taxonomy) (doc : Document) : Option (Domain × Domain) := do
  let actual ← doc.domain
  let expected ← taxonomy.domainOfType? doc.type
  if actual == expected then none else some (expected, actual)

/-- The ids that an expected relationship is looked for among. -/
def ExpectedRelationship.candidates (e : ExpectedRelationship) (doc : Document) : List String :=
  if e.field == "enables" then doc.enables else doc.dependsOn

/-- Whether a document has a relationship that is expected of it. -/
def ExpectedRelationship.isMet (e : ExpectedRelationship) (doc : Document) : Bool :=
  (e.candidates doc).any fun id => e.targets.contains (idType id)

/-- The issues of the domain of a document and of the relationships expected of its type. -/
def checkDomain (taxonomy : Taxonomy) (doc : Document) : List Issue :=
  (match domainConflict? taxonomy doc with
    | some (expected, actual) => [.domainTypeMismatch doc.type expected actual]
    | none => []) ++
  ((expectedRelationships.filter fun e => e.type == doc.type && !e.isMet doc).map
    .missingRelationship)

/-- The least number of characters of a text that is not too short. -/
def minimalLength : Nat := 100

/-- The issues of the text of a document and of its success criteria. -/
def checkContent (doc : Document) : List Issue :=
  issueIf (doc.content.length < minimalLength) .minimalContent ++
  issueIf (hasPlaceholder doc.content) .placeholderContent ++
  issueIf (doc.successCriteria == some []) .missingSuccessCriteria

/-! ## The document among others -/

/-- The cycle that a document with dependencies leads into. -/
def cycleIssues (c : Collection) (doc : Document) : List Issue :=
  if doc.dependsOn.isEmpty then []
  else (Dependency.findCycle? c doc.id).toList.map .circularDependency

/-- Whether the document of a given id is accepted. -/
def isAccepted (c : Collection) (id : String) : Bool := (c.get? id).any (·.status == .accepted)

/-- The issues of the references of a document. -/
def checkReferences (c : Collection) (doc : Document) : List Issue :=
  (doc.dependsOn.filter fun id => !c.contains id).map .missingDependency ++
  (doc.enables.filter fun id => !c.contains id).map .missingEnabled ++
  cycleIssues c doc ++
  (doc.conflictsWith.filter (isAccepted c)).map .activeConflict

/-- All issues of a document. Its references are checked if a collection is given. -/
def checkDocument (taxonomy : Taxonomy) (c : Option Collection) (doc : Document) : List Issue :=
  checkStructure doc ++ checkDomain taxonomy doc ++
  (match c with
    | some c => checkReferences c doc
    | none => []) ++
  checkContent doc

end Dossier.Validation
