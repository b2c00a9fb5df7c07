import Dossier.Proofs.Validation.Check
import Dossier.Query.Recommendation
import Dossier.Validation.Report

/-!
# Dangling links in recommendations and in reports

Recommendations list the links that dangle, and validation reports each of them as an issue of the
document it starts from. Each looks for them in its own way: the one goes through the links of a
document, the other through its dependencies, which give errors, and then through what it enables,
which gives warnings. Document by document they find the same links, each as often as it is
repeated (`danglingLinks_recommend_eq_report`).
-/

namespace Dossier.Validation

open Query (DanglingLink recommend)

variable {taxonomy : Taxonomy} {c : Collection} {doc : Document} {issue : Issue}

/-! ## What is reported -/

/-- The id that an issue tells not to be in the collection. -/
def Issue.absentId? : Issue → Option String
  | missingDependency id | missingEnabled id => some id
  | _ => none

/-- The links that an entry tells to dangle: errors tell of dependencies, and warnings of what is
enabled. -/
def Entry.danglingLinks (e : Entry) : List DanglingLink :=
  ((e.report.errors.filter (·.code == "MISSING_DEPENDENCY") ++
    e.report.warnings.filter (·.code == "MISSING_ENABLED_DOCUMENT")).filterMap Issue.absentId?).map
      (⟨e.id, ·⟩)

/-- The issues that tell of an absent id have one of two codes, and no other issues have them. -/
theorem absentId?_ne_none_iff :
    issue.absentId? ≠ none ↔
      issue.code = "MISSING_DEPENDENCY" ∨ issue.code = "MISSING_ENABLED_DOCUMENT" := by
  cases issue <;> simp [Issue.absentId?, Issue.code]

/-! ## What is found -/

/-- No issue of a document by itself tells of an absent id. -/
theorem absentId?_of_mem_checkStructure (h : issue ∈ checkStructure doc) :
    issue.absentId? = none := by
  rcases mem_checkStructure.1 h with ⟨-, rfl⟩ | ⟨-, rfl⟩ | ⟨-, rfl⟩ | ⟨-, rfl⟩ | ⟨-, rfl⟩ <;> rfl

/-- No issue of a domain tells of an absent id. -/
theorem absentId?_of_mem_checkDomain (h : issue ∈ checkDomain taxonomy doc) :
    issue.absentId? = none := by
  rcases mem_checkDomain.1 h with ⟨_, _, -, rfl⟩ | ⟨_, -, -, -, rfl⟩ <;> rfl

/-- No issue of a text tells of an absent id. -/
theorem absentId?_of_mem_checkContent (h : issue ∈ checkContent doc) : issue.absentId? = none := by
  rcases mem_checkContent.1 h with ⟨-, rfl⟩ | ⟨-, rfl⟩ | ⟨-, rfl⟩ <;> rfl

/-- Of the issues of a document, those that tell of absent ids come from its dependencies and from
what it enables, in the order and as often as they are listed. -/
theorem filter_checkDocument {p : Issue → Bool}
    (hp : ∀ issue, p issue = true → issue.absentId? ≠ none) :
    (checkDocument taxonomy (some c) doc).filter p =
      ((doc.dependsOn.filter fun id => !c.contains id).map .missingDependency).filter p ++
        ((doc.enables.filter fun id => !c.contains id).map .missingEnabled).filter p := by
  have hnone {issues : List Issue} (h : ∀ issue ∈ issues, issue.absentId? = none) :
      issues.filter p = [] :=
    List.filter_eq_nil_iff.2 fun issue hissue hpass => hp issue hpass (h issue hissue)
  have hcycle : (cycleIssues c doc).filter p = [] := by
    refine hnone fun issue hissue => ?_
    unfold cycleIssues at hissue
    split at hissue
    · cases hissue
    · obtain ⟨_, -, rfl⟩ := List.mem_map.1 hissue
      rfl
  have hconflict : ((doc.conflictsWith.filter (isAccepted c)).map Issue.activeConflict).filter p =
      [] :=
    hnone (List.forall_mem_map.2 fun _ _ => rfl)
  simp only [checkDocument, checkReferences, List.filter_append, hcycle, hconflict,
    hnone fun _ => absentId?_of_mem_checkStructure, hnone fun _ => absentId?_of_mem_checkDomain,
    hnone fun _ => absentId?_of_mem_checkContent, List.nil_append, List.append_nil]

/-- The errors on missing dependencies. -/
theorem filter_errors_validate :
    (validate taxonomy (some c) doc).errors.filter (·.code == "MISSING_DEPENDENCY") =
    (doc.dependsOn.filter fun id => !c.contains id).map .missingDependency := by
  rw [Report.errors, List.filter_filter, validate, filter_checkDocument]
  · simp [List.filter_map, Function.comp_def, Issue.code, Issue.severity]
  · intro issue h
    simp only [Bool.and_eq_true, beq_iff_eq] at h
    exact absentId?_ne_none_iff.2 (.inl h.1)

/-- The warnings on missing documents that are enabled. -/
theorem filter_warnings_validate :
    (validate taxonomy (some c) doc).warnings.filter (·.code == "MISSING_ENABLED_DOCUMENT") =
      (doc.enables.filter fun id => !c.contains id).map .missingEnabled := by
  rw [Report.warnings, List.filter_filter, validate, filter_checkDocument]
  · simp [List.filter_map, Function.comp_def, Issue.code, Issue.severity]
  · intro issue h
    simp only [Bool.and_eq_true, beq_iff_eq] at h
    exact absentId?_ne_none_iff.2 (.inr h.1)

/-! ## Both views -/

/-- The links of a document to ids that no document has. -/
def linksToNowhere (docs : List Document) (doc : Document) : List DanglingLink :=
  (doc.links.filter (· ∉ docs.map (·.id))).map (⟨doc.id, ·⟩)

/-- Recommendations and a report on documents that tell of the same dangling links. -/
structure TellSameLinks (docs : List Document) (lacks : Query.Recommendations)
    (report : CollectionReport) : Prop where
  /-- The entry of each document tells of its links to ids that no document has. -/
  each : report.entries.map Entry.danglingLinks = docs.map (linksToNowhere docs)
  /-- The recommendations list what the entries tell of, entry by entry. -/
  together : lacks.danglingLinks = report.entries.flatMap Entry.danglingLinks
  /-- There are none if no document has an issue of either code. -/
  none : lacks.danglingLinks = [] ↔ ∀ e ∈ report.entries, ∀ issue ∈ e.report.issues,
    issue.code ≠ "MISSING_DEPENDENCY" ∧ issue.code ≠ "MISSING_ENABLED_DOCUMENT"

/-- The links of a document that dangle in a collection lead to ids that no document has. -/
theorem danglingLinks_ofList (docs : List Document) (doc : Document) :
    Query.danglingLinks (.ofList docs) doc = linksToNowhere docs doc := by
  rw [Query.danglingLinks, linksToNowhere]
  congr 1
  refine List.filter_congr fun target _ => ?_
  rw [Bool.eq_iff_iff, Bool.not_eq_true', decide_eq_true_iff, ← Collection.contains_ofList_iff,
    Bool.not_eq_true]

/-- The entry of a document tells of the links of the document that dangle. -/
theorem danglingLinks_entry (c : Collection) (doc : Document) :
    (⟨doc.id, doc.source, validate taxonomy (some c) doc⟩ : Entry).danglingLinks =
      Query.danglingLinks c doc := by
  simp only [Entry.danglingLinks, filter_errors_validate, filter_warnings_validate,
    Query.danglingLinks, Document.links, List.filter_append, List.filterMap_append,
    List.filterMap_map, Function.comp_def, Issue.absentId?, List.filterMap_some]

/-- An entry tells of no dangling link if its report has no issue of either code. -/
theorem danglingLinks_entry_eq_nil_iff {e : Entry} : e.danglingLinks = [] ↔
    ∀ issue ∈ e.report.issues,
    issue.code ≠ "MISSING_DEPENDENCY" ∧ issue.code ≠ "MISSING_ENABLED_DOCUMENT" := by
  simp only [Entry.danglingLinks, List.map_eq_nil_iff, List.filterMap_eq_nil_iff, List.mem_append,
    Report.errors, Report.warnings, List.mem_filter, beq_iff_eq]
  constructor
  · intro hnone issue hissue
    refine ⟨fun hcode => ?_, fun hcode => ?_⟩
    · have hsevere : issue.severity = .error := by
        cases issue <;> simp_all [Issue.code, Issue.severity]
      exact absentId?_ne_none_iff.2 (.inl hcode) (hnone issue (.inl ⟨⟨hissue, hsevere⟩, hcode⟩))
    · have hmild : issue.severity = .warning := by
        cases issue <;> simp_all [Issue.code, Issue.severity]
      exact absentId?_ne_none_iff.2 (.inr hcode) (hnone issue (.inr ⟨⟨hissue, hmild⟩, hcode⟩))
  · rintro hneither issue (⟨⟨hissue, -⟩, hcode⟩ | ⟨⟨hissue, -⟩, hcode⟩)
    · exact absurd hcode (hneither issue hissue).1
    · exact absurd hcode (hneither issue hissue).2

/-- **Recommendations and reports tell of the same dangling links.** Whatever ids repeat, the entry
of every document tells of its links to ids that no document has, as often as it lists them, and
the recommendations list the same. -/
theorem danglingLinks_recommend_eq_report (taxonomy : Taxonomy) (docs : List Document)
    (threshold limit : Nat) :
    TellSameLinks docs (recommend ⟨.ofList docs, taxonomy, threshold, limit⟩)
      (validateCollection taxonomy (.ofList docs)) := by
  have heach : (validateCollection taxonomy (.ofList docs)).entries.map Entry.danglingLinks =
      docs.map (Query.danglingLinks (.ofList docs)) := by
    have hentries : (validateCollection taxonomy (.ofList docs)).entries =
        docs.map fun doc => ⟨doc.id, doc.source, validate taxonomy (some (.ofList docs)) doc⟩ :=
          rfl
    rw [hentries, List.map_map]
    refine List.map_congr_left fun doc _ => ?_
    rw [Function.comp_apply, danglingLinks_entry]
  have htogether : (recommend ⟨.ofList docs, taxonomy, threshold, limit⟩).danglingLinks =
      (validateCollection taxonomy (.ofList docs)).entries.flatMap Entry.danglingLinks := by
    rw [List.flatMap_def, heach]
    rfl
  constructor
  case each => rw [heach, funext (danglingLinks_ofList docs)]
  case together => exact htogether
  case none => simp only [htogether, List.flatMap_eq_nil_iff, danglingLinks_entry_eq_nil_iff]

end Dossier.Validation
