import Mathlib.Data.List.Basic
import Dossier.Validation.Pattern

/-!
# The forms of ids and versions

What the patterns accept, said without scanning: an id is a type, a hyphen and a name
(`isDocumentId_iff`), and a version is three numbers that are joined by points (`isVersion_iff`).
-/

namespace Dossier.Validation

variable {p : Char → Bool} {cs rest run : List Char} {s id type version : String}

/-- A text that is not empty and has characters of one kind only. -/
def IsRun (p : Char → Bool) (s : String) : Prop := s ≠ "" ∧ ∀ c ∈ s.toList, p c = true

/-- A run of characters is one if it is read as a string. -/
theorem isRun_ofList (hne : run ≠ []) (hall : ∀ c ∈ run, p c = true) :
    IsRun p (String.ofList run) := by
  refine ⟨fun hempty => hne ?_, by simpa using hall⟩
  simpa using congrArg String.toList hempty

/-- The characters of a run are at least one. -/
theorem IsRun.toList_ne_nil (h : IsRun p s) : s.toList ≠ [] :=
  fun hnil => h.1 (String.toList_eq_nil_iff.1 hnil)

/-! ## Ids -/

/-- The type of an id ends at the first hyphen. -/
theorem idType_append (htype : ∀ c ∈ type.toList, c ≠ '-') (name : String) :
    idType (type ++ "-" ++ name) = type := by
  have htake : ((type ++ "-" ++ name).toList).takeWhile (· != '-') = type.toList := by
    rw [String.append_assoc, String.toList_append,
      List.takeWhile_append_of_pos fun c hc => bne_iff_ne.2 (htype c hc)]
    simp
  rw [idType, htake, String.ofList_toList]

/-- A capital is no hyphen. -/
theorem ne_hyphen_of_isCapital {c : Char} (h : isCapital c = true) : c ≠ '-' := by
  rintro rfl
  exact absurd h (by decide)

/-- **An id is three capitals, a hyphen and a name in small letters.** -/
theorem isDocumentId_iff : isDocumentId id = true ↔
    ∃ type name, type.length = 3 ∧ IsRun isCapital type ∧ IsRun isKebab name ∧
    id = type ++ "-" ++ name := by
  constructor
  · intro h
    unfold isDocumentId at h
    split at h
    case h_2 => cases h
    case h_1 c₁ c₂ c₃ name hchars =>
      simp only [Bool.and_eq_true, Bool.not_eq_true', List.isEmpty_eq_false_iff, List.all_eq_true]
        at h
      obtain ⟨⟨⟨⟨h₁, h₂⟩, h₃⟩, hname⟩, hkebab⟩ := h
      refine ⟨String.ofList [c₁, c₂, c₃], String.ofList name, by simp, ?_,
        isRun_ofList hname hkebab, ?_⟩
      · exact isRun_ofList (by simp) (by simp [h₁, h₂, h₃])
      · exact String.toList_injective (by simp [hchars])
  · rintro ⟨type, name, hlength, ⟨-, hcapital⟩, hname, rfl⟩
    obtain ⟨c₁, c₂, c₃, hchars⟩ := List.length_eq_three.1 (String.length_toList.trans hlength)
    simp only [hchars, List.mem_cons, List.not_mem_nil, or_false, forall_eq_or_imp, forall_eq]
      at hcapital
    have hid : (type ++ "-" ++ name).toList = c₁ :: c₂ :: c₃ :: '-' :: name.toList := by
      simp [hchars]
    simp only [isDocumentId, hid, Bool.and_eq_true, Bool.not_eq_true', List.isEmpty_eq_false_iff,
      List.all_eq_true]
    exact ⟨⟨⟨⟨hcapital.1, hcapital.2.1⟩, hcapital.2.2⟩, hname.toList_ne_nil⟩, hname.2⟩

/-- An id of the required form is its type, a hyphen and a name. -/
theorem exists_eq_of_isDocumentId (h : isDocumentId id = true) :
    ∃ name, name ≠ "" ∧ id = idType id ++ "-" ++ name := by
  obtain ⟨type, name, -, htype, hname, rfl⟩ := isDocumentId_iff.1 h
  refine ⟨name, hname.1, ?_⟩
  rw [idType_append fun c hc => ne_hyphen_of_isCapital (htype.2 c hc)]

/-! ## Versions -/

/-- Three numbers in digits of a kind, with points between them. -/
def IsVersionIn (digit : Char → Bool) (version : String) : Prop :=
  ∃ major minor patch, IsRun digit major ∧ IsRun digit minor ∧ IsRun digit patch ∧
    version = major ++ "." ++ minor ++ "." ++ patch

/-- What is dropped is a run of digits. -/
theorem exists_isRun_of_dropDigits (h : dropDigits cs = some rest) :
    ∃ number, IsRun Text.isDigit number ∧ cs = number.toList ++ rest := by
  unfold dropDigits at h
  split at h
  case isTrue => cases h
  case isFalse hne =>
    cases h
    refine ⟨_, isRun_ofList (mt List.isEmpty_iff.2 hne) fun c hc => ?_, ?_⟩
    · exact List.all_eq_true.1 List.all_takeWhile c hc
    · simp [List.takeWhile_append_dropWhile]

/-- A run of digits is dropped where no digit follows. -/
theorem dropDigits_append {number : String} (h : IsRun Text.isDigit number)
    (hrest : ∀ c ∈ rest.head?, Text.isDigit c = false) :
    dropDigits (number.toList ++ rest) = some rest := by
  have hrest : rest.takeWhile Text.isDigit = [] ∧ rest.dropWhile Text.isDigit = rest := by
    cases rest with
    | nil => simp
    | cons c rest => simp [hrest c rfl]
  rw [dropDigits, List.takeWhile_append_of_pos h.2, List.dropWhile_append_of_pos h.2, hrest.1,
    hrest.2, if_neg]
  simp [h.1]

/-- A point is dropped. -/
theorem dropPoint_eq_some_iff : dropPoint cs = some rest ↔ cs = '.' :: rest := by
  unfold dropPoint
  split
  case h_1 => simp
  case h_2 h =>
    refine iff_of_false (by simp) fun hcs => ?_
    exact h rest hcs

/-- **A version is three numbers with points between them.** The digits are those of any script. -/
theorem isVersion_iff : isVersion version = true ↔ IsVersionIn Text.isDigit version := by
  simp only [isVersion, beq_iff_eq, Option.bind_eq_bind, Option.bind_eq_some_iff,
    dropPoint_eq_some_iff]
  constructor
  · rintro ⟨_, h₁, _, rfl, _, h₂, _, rfl, h₃⟩
    obtain ⟨major, hmajor, hchars⟩ := exists_isRun_of_dropDigits h₁
    obtain ⟨minor, hminor, rfl⟩ := exists_isRun_of_dropDigits h₂
    obtain ⟨patch, hpatch, rfl⟩ := exists_isRun_of_dropDigits h₃
    exact ⟨major, minor, patch, hmajor, hminor, hpatch, String.toList_injective (by simp [hchars])⟩
  · rintro ⟨major, minor, patch, hmajor, hminor, hpatch, rfl⟩
    have hpoint : ∀ cs : List Char, ∀ c ∈ ('.' :: cs).head?, Text.isDigit c = false := by
      rintro cs c ⟨⟩
      decide
    have hend : ∀ c ∈ ([] : List Char).head?, Text.isDigit c = false := by simp
    refine ⟨'.' :: (minor.toList ++ '.' :: patch.toList), ?_, _, rfl, '.' :: patch.toList, ?_,
      _, rfl, ?_⟩
    · simpa using dropDigits_append hmajor (hpoint (minor.toList ++ '.' :: patch.toList))
    · exact dropDigits_append hminor (hpoint patch.toList)
    · simpa using dropDigits_append hpatch hend

end Dossier.Validation
