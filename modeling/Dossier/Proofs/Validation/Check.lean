import Dossier.Proofs.Collection
import Dossier.Proofs.Validation.Pattern
import Dossier.Validation.Check

/-!
# What the issues of a document tell

An issue is among those of a document exactly if what it tells is so. Each check has its law, which
says for every issue when the check finds it.
-/

namespace Dossier.Validation

variable {taxonomy : Taxonomy} {c : Collection} {c? : Option Collection} {doc : Document}
  {issue : Issue}

/-! ## The issues of each check -/

/-- An issue is there if it holds. -/
theorem mem_issueIf {holds : Bool} {issue found : Issue} :
    found ∈ issueIf holds issue ↔ holds = true ∧ found = issue := by
  cases holds <;> simp [issueIf]

/-- The issues of the id, type, version, dates and owner of a document. -/
theorem mem_checkStructure : issue ∈ checkStructure doc ↔
    (isDocumentId doc.id = false ∧ issue = .invalidId) ∨
    (doc.type ≠ idType doc.id ∧ issue = .typeIdMismatch doc.type (idType doc.id)) ∨
    (isVersion doc.version = false ∧ issue = .invalidVersion) ∨
    (datesReversed doc = true ∧ issue = .invalidDateSequence) ∨
    (Text.isAllBlank doc.owner = true ∧ issue = .missingOwner) := by
  simp only [checkStructure, List.mem_append, mem_issueIf, Bool.not_eq_true', bne_iff_ne, or_assoc]

/-- The issues of the domain of a document and of the relationships expected of its type. -/
theorem mem_checkDomain : issue ∈ checkDomain taxonomy doc ↔
    (∃ expected actual, domainConflict? taxonomy doc = some (expected, actual) ∧
      issue = .domainTypeMismatch doc.type expected actual) ∨
    ∃ e ∈ expectedRelationships, e.type = doc.type ∧ e.isMet doc = false ∧
      issue = .missingRelationship e := by
  rw [checkDomain, List.mem_append]
  refine or_congr ?_ ?_
  · cases domainConflict? taxonomy doc with
    | none => simp
    | some conflict => simp [Prod.ext_iff]
  · simp only [List.mem_map, List.mem_filter, Bool.and_eq_true, beq_iff_eq, Bool.not_eq_true',
      and_assoc, @eq_comm _ _ issue]

/-- The issues of the text of a document and of its success criteria. -/
theorem mem_checkContent : issue ∈ checkContent doc ↔
    (doc.content.length < minimalLength ∧ issue = .minimalContent) ∨
    (hasPlaceholder doc.content = true ∧ issue = .placeholderContent) ∨
    (doc.successCriteria = some [] ∧ issue = .missingSuccessCriteria) := by
  simp only [checkContent, List.mem_append, mem_issueIf, decide_eq_true_eq, beq_iff_eq, or_assoc]

/-- The issues of the references of a document. -/
theorem mem_checkReferences : issue ∈ checkReferences c doc ↔
    (∃ id ∈ doc.dependsOn, c.contains id = false ∧ issue = .missingDependency id) ∨
    (∃ id ∈ doc.enables, c.contains id = false ∧ issue = .missingEnabled id) ∨
    (∃ cycle, doc.dependsOn ≠ [] ∧ Dependency.findCycle? c doc.id = some cycle ∧
      issue = .circularDependency cycle) ∨
    ∃ id ∈ doc.conflictsWith, isAccepted c id = true ∧ issue = .activeConflict id := by
  have hcycle : issue ∈ cycleIssues c doc ↔ ∃ cycle, doc.dependsOn ≠ [] ∧
      Dependency.findCycle? c doc.id = some cycle ∧ issue = .circularDependency cycle := by
    rw [cycleIssues]
    split
    case isTrue h => simp [List.isEmpty_iff.1 h]
    case isFalse h => simp [mt List.isEmpty_iff.2 h, eq_comm]
  simp only [checkReferences, List.mem_append, List.mem_map, List.mem_filter, Bool.not_eq_true',
    hcycle, and_assoc, or_assoc, @eq_comm _ _ issue]

/-! ## All issues of a document -/

/-- The issues of a document are those of its checks. Its references are checked in a
collection. -/
theorem mem_checkDocument : issue ∈ checkDocument taxonomy c? doc ↔
    issue ∈ checkStructure doc ∨ issue ∈ checkDomain taxonomy doc ∨
      (∃ c ∈ c?, issue ∈ checkReferences c doc) ∨ issue ∈ checkContent doc := by
  unfold checkDocument
  cases c? <;> simp

/-- A missing owner is among the issues of a document if its owner is blank. -/
theorem missingOwner_mem_checkDocument :
    .missingOwner ∈ checkDocument taxonomy c? doc ↔ Text.isAllBlank doc.owner = true := by
  simp [mem_checkDocument, mem_checkStructure, mem_checkDomain, mem_checkContent,
    mem_checkReferences]

/-- A wrong sequence of dates is among the issues of a document if its dates can be read and are
reversed. -/
theorem invalidDateSequence_mem_checkDocument :
    .invalidDateSequence ∈ checkDocument taxonomy c? doc ↔ datesReversed doc = true := by
  simp [mem_checkDocument, mem_checkStructure, mem_checkDomain, mem_checkContent,
    mem_checkReferences]

end Dossier.Validation
