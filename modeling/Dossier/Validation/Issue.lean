import Dossier.Document.Json

/-!
# Issues of validation

An issue is what a check found, with the data that its message tells. Its code, its severity, the
field it lies in and the advice on it follow from what it is.
-/

namespace Dossier.Validation

open Json

/-- A relationship that documents of a type are expected to have: to a document of one of the given
types. -/
structure ExpectedRelationship where
  type : String
  field : String
  targets : List String
  description : String
  advice : String
  deriving DecidableEq, Repr

/-- What a check found. -/
inductive Issue where
  | invalidId
  | typeIdMismatch (type idType : String)
  | invalidVersion
  | invalidDateSequence
  | missingOwner
  | domainTypeMismatch (type : String) (expected actual : Domain)
  | missingRelationship (expected : ExpectedRelationship)
  | missingDependency (id : String)
  | missingEnabled (id : String)
  | circularDependency (cycle : List String)
  | activeConflict (id : String)
  | minimalContent
  | placeholderContent
  | missingSuccessCriteria
  | duplicateId (id : String)
  deriving DecidableEq, Repr

/-- How severe an issue is. -/
inductive Severity where
  | error
  | warning
  deriving DecidableEq, Repr

/-- The name of a severity. -/
def Severity.name : Severity → String
  | error => "error"
  | warning => "warning"

namespace Issue

/-- The code of an issue. -/
def code : Issue → String
  | invalidId => "INVALID_ID_FORMAT"
  | typeIdMismatch .. => "TYPE_ID_MISMATCH"
  | invalidVersion => "INVALID_VERSION_FORMAT"
  | invalidDateSequence => "INVALID_DATE_SEQUENCE"
  | missingOwner => "MISSING_OWNER"
  | domainTypeMismatch .. => "DOMAIN_TYPE_MISMATCH"
  | missingRelationship .. => "MISSING_EXPECTED_RELATIONSHIP"
  | missingDependency .. => "MISSING_DEPENDENCY"
  | missingEnabled .. => "MISSING_ENABLED_DOCUMENT"
  | circularDependency .. => "CIRCULAR_DEPENDENCY"
  | activeConflict .. => "ACTIVE_CONFLICT"
  | minimalContent => "MINIMAL_CONTENT"
  | placeholderContent => "PLACEHOLDER_CONTENT"
  | missingSuccessCriteria => "MISSING_SUCCESS_CRITERIA"
  | duplicateId .. => "DUPLICATE_DOCUMENT_ID"

/-- The severity of an issue. -/
def severity : Issue → Severity
  | missingRelationship .. | missingEnabled .. | activeConflict .. | minimalContent
  | placeholderContent | missingSuccessCriteria => .warning
  | _ => .error

/-- The wording of an issue. -/
def message : Issue → String
  | invalidId => "Document ID must follow format: TYPE-kebab-case-name"
  | typeIdMismatch type idType =>
    s!"Document type \"{type}\" does not match ID prefix \"{idType}\""
  | invalidVersion => "Version must follow semantic versioning (x.y.z)"
  | invalidDateSequence => "Created date cannot be after updated date"
  | missingOwner => "Document must have an owner"
  | domainTypeMismatch type expected actual =>
    s!"Document type {type} should be in {expected.name} domain, not {actual.name}"
  | missingRelationship e => s!"{e.type} documents typically {e.description}"
  | missingDependency id => s!"Dependency \"{id}\" not found in document collection"
  | missingEnabled id => s!"Enabled document \"{id}\" not found in collection"
  | circularDependency cycle => "Circular dependency detected: " ++ " -> ".intercalate cycle
  | activeConflict id => s!"Document conflicts with accepted document \"{id}\""
  | minimalContent => "Document content is quite short, consider adding more detail"
  | placeholderContent => "Document contains placeholder content"
  | missingSuccessCriteria => "Document has no success criteria defined"
  | duplicateId id => s!"Duplicate document ID found: {id}"

/-- The field that an issue lies in. -/
def field? : Issue → Option String
  | invalidId => some "id"
  | typeIdMismatch .. => some "type"
  | invalidVersion => some "version"
  | invalidDateSequence => some "updated"
  | missingOwner => some "owner"
  | domainTypeMismatch .. => some "domain"
  | missingRelationship e => some e.field
  | missingDependency .. => some "depends_on"
  | missingEnabled .. => some "enables"
  | circularDependency .. => some "depends_on"
  | activeConflict .. => some "conflicts_with"
  | missingSuccessCriteria => some "success_criteria"
  | minimalContent | placeholderContent | duplicateId .. => none

/-- The advice on an issue. -/
def advice? : Issue → Option String
  | missingRelationship e => some e.advice
  | activeConflict .. => some "Consider updating conflict resolution or document status"
  | minimalContent => some "Add more context, examples, or implementation details"
  | placeholderContent => some "Replace placeholder content with actual information"
  | missingSuccessCriteria => some "Add measurable success criteria for validation"
  | _ => none

/-- An issue as an object. -/
def toJson (i : Issue) : Value :=
  .object <|
    [("code", .string i.code), ("message", .string i.message),
      ("severity", .string i.severity.name)] ++
    Document.optionMember "field" (i.field?.map .string) ++
    Document.optionMember "recommendation" (i.advice?.map .string)

end Issue

end Dossier.Validation
