import Dossier.Proofs.Validation.Check
import Dossier.Validation.Report

/-!
# The form of ids, types and versions

Three codes tell faults of the form of a document. None of them is told exactly if the id is the
type, three capitals, with a name, and the version is three numbers. Numbers may be in digits of
any script, so a version may be accepted that is not in the digits from 0 to 9
(`hasForm_iff_forall_code_not_mem`).
-/

namespace Dossier.Validation

variable {taxonomy : Taxonomy} {c? : Option Collection} {doc : Document} {issue : Issue}
  {version : String}

/-- The codes that tell faults of the form. -/
def formCodes : List String := ["INVALID_ID_FORMAT", "TYPE_ID_MISMATCH", "INVALID_VERSION_FORMAT"]

/-- A document whose id is its type with a name, and whose version is in digits of a kind. -/
structure HasForm (digit : Char → Bool) (doc : Document) : Prop where
  type : doc.type.length = 3 ∧ IsRun isCapital doc.type
  id : ∃ name, IsRun isKebab name ∧ doc.id = doc.type ++ "-" ++ name
  version : IsVersionIn digit doc.version

/-! ## What is told -/

/-- The issues that tell faults of the form. -/
theorem code_mem_formCodes_iff : issue.code ∈ formCodes ↔
    issue = .invalidId ∨ (∃ type idType, issue = .typeIdMismatch type idType) ∨
    issue = .invalidVersion := by
  cases issue <;> simp [Issue.code, formCodes]

/-- No fault of the form is told if the id and the version are accepted and the type is that of the
id. -/
theorem forall_code_not_mem_iff :
    (∀ issue ∈ (validate taxonomy c? doc).issues, issue.code ∉ formCodes) ↔
      isDocumentId doc.id = true ∧ doc.type = idType doc.id ∧ isVersion doc.version = true := by
  rw [validate]
  constructor
  · intro h
    have habsent : ∀ issue ∈ checkStructure doc, issue.code ∉ formCodes :=
      fun issue hissue => h issue (mem_checkDocument.2 (.inl hissue))
    simp only [mem_checkStructure, code_mem_formCodes_iff] at habsent
    refine ⟨?_, ?_, ?_⟩
    · by_contra hid
      exact habsent .invalidId (.inl ⟨Bool.eq_false_iff.2 hid, rfl⟩) (.inl rfl)
    · by_contra htype
      exact habsent (.typeIdMismatch _ _) (.inr (.inl ⟨htype, rfl⟩)) (.inr (.inl ⟨_, _, rfl⟩))
    · by_contra hversion
      exact habsent .invalidVersion (.inr (.inr (.inl ⟨Bool.eq_false_iff.2 hversion, rfl⟩)))
        (.inr (.inr rfl))
  · rintro ⟨hid, htype, hversion⟩ issue hissue hcode
    rcases code_mem_formCodes_iff.1 hcode with rfl | ⟨type, idType, rfl⟩ | rfl <;>
      simp [mem_checkDocument, mem_checkStructure, mem_checkDomain, mem_checkContent,
      mem_checkReferences, hid,
        hversion] at hissue
    exact hissue.1 htype

/-- An id that is accepted with the type of a document is that type with a name. -/
theorem isDocumentId_and_type_eq_iff : (isDocumentId doc.id = true ∧ doc.type = idType doc.id) ↔
    (doc.type.length = 3 ∧ IsRun isCapital doc.type) ∧
      ∃ name, IsRun isKebab name ∧ doc.id = doc.type ++ "-" ++ name := by
  rw [isDocumentId_iff]
  constructor
  · rintro ⟨⟨type, name, hlength, htype, hname, hid⟩, heq⟩
    rw [hid, idType_append fun c hc => ne_hyphen_of_isCapital (htype.2 c hc)] at heq
    subst heq
    exact ⟨⟨hlength, htype⟩, name, hname, hid⟩
  · rintro ⟨⟨hlength, htype⟩, name, hname, hid⟩
    refine ⟨⟨doc.type, name, hlength, htype, hname, hid⟩, ?_⟩
    rw [hid, idType_append fun c hc => ne_hyphen_of_isCapital (htype.2 c hc)]

/-! ## The digits of a version -/

/-- A version is in digits from 0 to 9 if it is in digits of any script and has no other characters
than those and points. -/
theorem isVersionIn_isDigit_iff : IsVersionIn Char.isDigit version ↔
    IsVersionIn Text.isDigit version ∧ ∀ c ∈ version.toList, c = '.' ∨ c.isDigit = true := by
  constructor
  · rintro ⟨major, minor, patch, hmajor, hminor, hpatch, rfl⟩
    have hany : ∀ {s}, IsRun Char.isDigit s → IsRun Text.isDigit s :=
      fun h => ⟨h.1, fun c hc => by rw [Text.isDigit, h.2 c hc, Bool.true_or]⟩
    refine ⟨⟨major, minor, patch, hany hmajor, hany hminor, hany hpatch, rfl⟩, fun c hc => ?_⟩
    simp only [String.toList_append, List.mem_append, or_assoc] at hc
    rcases hc with hc | hc | hc | hc | hc
    · exact .inr (hmajor.2 c hc)
    · exact .inl (by simpa using hc)
    · exact .inr (hminor.2 c hc)
    · exact .inl (by simpa using hc)
    · exact .inr (hpatch.2 c hc)
  · rintro ⟨⟨major, minor, patch, hmajor, hminor, hpatch, rfl⟩, hchars⟩
    have hascii : ∀ {s}, IsRun Text.isDigit s →
        (∀ c ∈ s.toList, c ∈ (major ++ "." ++ minor ++ "." ++ patch).toList) →
        IsRun Char.isDigit s := by
      refine fun hs hsub => ⟨hs.1, fun c hc => (hchars c (hsub c hc)).resolve_left ?_⟩
      rintro rfl
      exact absurd (hs.2 _ hc) (by decide)
    refine ⟨major, minor, patch, hascii hmajor ?_, hascii hminor ?_, hascii hpatch ?_, rfl⟩ <;>
      · intro c hc
        simp [hc]

/-! ## Documents in their form -/

/-- **No fault of the form is told if and only if a document has its form, with digits of any
script.** With digits from 0 to 9 it has it if besides its version has no other characters than
these and points. -/
theorem hasForm_iff_forall_code_not_mem (taxonomy : Taxonomy) (c? : Option Collection)
    (doc : Document) :
    ((∀ issue ∈ (validate taxonomy c? doc).issues, issue.code ∉ formCodes) ↔
      HasForm Text.isDigit doc) ∧
    (HasForm Char.isDigit doc ↔
      HasForm Text.isDigit doc ∧ ∀ c ∈ doc.version.toList, c = '.' ∨ c.isDigit = true) := by
  constructor
  · rw [forall_code_not_mem_iff, ← and_assoc, isDocumentId_and_type_eq_iff, isVersion_iff]
    constructor
    · rintro ⟨⟨htype, hid⟩, hversion⟩
      exact ⟨htype, hid, hversion⟩
    · rintro ⟨htype, hid, hversion⟩
      exact ⟨⟨htype, hid⟩, hversion⟩
  · constructor
    · rintro ⟨htype, hid, hversion⟩
      obtain ⟨hany, hchars⟩ := isVersionIn_isDigit_iff.1 hversion
      exact ⟨⟨htype, hid, hany⟩, hchars⟩
    · rintro ⟨⟨htype, hid, hany⟩, hchars⟩
      exact ⟨htype, hid, isVersionIn_isDigit_iff.2 ⟨hany, hchars⟩⟩

/-- **A version in other digits than those from 0 to 9 is accepted.** -/
theorem forall_code_not_mem_arabicDigits :
    let doc := { Document.named "MSN-core" "MSN" with version := "\u0661.\u0660.\u0660" }
    (∀ issue ∈ (validate .canonical none doc).issues, issue.code ∉ formCodes) ∧
      ¬ HasForm Char.isDigit doc := by
  intro doc
  have haccepted : isDocumentId doc.id = true ∧ doc.type = idType doc.id ∧
      isVersion doc.version = true := by
    decide +kernel
  refine ⟨forall_code_not_mem_iff.2 haccepted, fun h => ?_⟩
  have hchars := (isVersionIn_isDigit_iff.1 h.version).2
  exact absurd (hchars '\u0661' (by decide)) (by decide)

end Dossier.Validation
