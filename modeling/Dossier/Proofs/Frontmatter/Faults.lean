import Dossier.Proofs.Frontmatter.Document

/-!
# Every fault is reported

A field that a document must have is faulty if it is missing or if its string is malformed
(`IsFaulty`). The faults of a text whose frontmatter is a mapping are reported together, and they
name every faulty field and no other (`readDocument_of_isFaulty`). What is missing and what is
malformed is looked for apart, so a string of nothing but blanks is named twice if it is malformed
as well, unless it is empty (`IsNamedTwice`); all others are named once.
-/

namespace Dossier

/-- The field that a fault names. -/
def FrontmatterFault.field? : FrontmatterFault → Option String
  | .missingField key | .noDate key _ => some key
  | .unknownType _ => some "type"
  | .unknownStatus _ => some "status"
  | .absent | .notMapping | .undecodable _ => none

/-- The wording of a fault has the name of its field in it. -/
theorem FrontmatterFault.exists_message_eq {fault : FrontmatterFault} {key : String}
    (h : fault.field? = some key) : ∃ before after, fault.message = before ++ key ++ after := by
  cases fault with
  | missingField key =>
    cases h
    exact ⟨"Missing required field: ", "", String.append_empty.symm⟩
  | unknownType code =>
    cases h
    have hname : "Invalid document type: " = "Invalid document " ++ "type" ++ ": " := by decide
    refine ⟨"Invalid document ", ": " ++ code, ?_⟩
    rw [← String.append_assoc, ← hname]
    rfl
  | unknownStatus name =>
    cases h
    have hname : "Invalid status: " = "Invalid " ++ "status" ++ ": " := by decide
    refine ⟨"Invalid ", ": " ++ name ++
      " (expected one of Draft, Review, Accepted, Deprecated)", ?_⟩
    rw [← String.append_assoc, ← String.append_assoc, ← hname]
    rfl
  | noDate key text =>
    cases h
    refine ⟨"Invalid ", " date (expected YYYY-MM-DD): " ++ text, ?_⟩
    rw [← String.append_assoc]
    rfl
  | absent | notMapping | undecodable => cases h

/-! ## Mappings as objects -/

namespace Yaml.Value

mutual

/-- Every key of a value, and of the values within it, is a string. -/
def HasStringKeys : Value → Prop
  | sequence items => ItemsHaveStringKeys items
  | mapping entries => EntriesHaveStringKeys entries
  | tagged _ v => v.HasStringKeys
  | null | bool _ | int _ | float _ | string _ => True

/-- Every key within the items is a string. -/
def ItemsHaveStringKeys : List Value → Prop
  | [] => True
  | v :: rest => v.HasStringKeys ∧ ItemsHaveStringKeys rest

/-- Every key of the entries and within them is a string. -/
def EntriesHaveStringKeys : List (Value × Value) → Prop
  | [] => True
  | (k, v) :: rest => (∃ s, k = string s) ∧ v.HasStringKeys ∧ EntriesHaveStringKeys rest

end

mutual

/-- A value whose keys are strings has a JSON value that says the same. -/
theorem exists_toJson {v : Value} (h : v.HasStringKeys) : ∃ j, v.toJson = .ok j := by
  cases v with
  | sequence items =>
    obtain ⟨js, hjs⟩ := exists_itemsToJson h
    exact ⟨.array js, by rw [toJson, hjs]; rfl⟩
  | mapping entries =>
    obtain ⟨members, hmembers⟩ := exists_entriesToJson h []
    exact ⟨.object members, by rw [toJson, hmembers]; rfl⟩
  | tagged tag v =>
    have hv : v.HasStringKeys := h
    obtain ⟨j, hj⟩ := exists_toJson hv
    exact ⟨.object [(tag, j)], by rw [toJson, hj]; rfl⟩
  | null | bool | int | float | string => exact ⟨_, by rw [toJson]⟩

/-- Items whose keys are strings have JSON values that say the same. -/
theorem exists_itemsToJson {items : List Value} (h : ItemsHaveStringKeys items) :
    ∃ js, itemsToJson items = .ok js := by
  cases items with
  | nil => exact ⟨[], by rw [itemsToJson]⟩
  | cons v rest =>
    obtain ⟨j, hj⟩ := exists_toJson h.1
    obtain ⟨js, hjs⟩ := exists_itemsToJson h.2
    exact ⟨j :: js, by rw [itemsToJson, hj, hjs]; rfl⟩

/-- Entries whose keys are strings can be set among members. -/
theorem exists_entriesToJson {entries : List (Value × Value)} (h : EntriesHaveStringKeys entries)
    (done : Json.Members) : ∃ members, entriesToJson done entries = .ok members := by
  cases entries with
  | nil => exact ⟨done, by rw [entriesToJson]⟩
  | cons entry rest =>
    obtain ⟨k, v⟩ := entry
    obtain ⟨⟨key, rfl⟩, hv, hrest⟩ := h
    obtain ⟨j, hj⟩ := exists_toJson hv
    obtain ⟨members, hmembers⟩ := exists_entriesToJson hrest (done.put key j)
    exact ⟨members, by rw [entriesToJson, hj]; exact hmembers⟩

end

/-- What becomes of a mapping is an object. -/
theorem exists_object_of_isMapping {v : Value} {j : Json.Value} (hmapping : v.isMapping = true)
    (h : v.toJson = .ok j) : ∃ members, j = .object members := by
  cases v with
  | mapping entries =>
    rw [toJson] at h
    obtain ⟨members, -, rfl⟩ := Json.exists_of_map_eq_ok h
    exact ⟨members, rfl⟩
  | tagged tag v =>
    rw [toJson] at h
    obtain ⟨value, -, h⟩ := Json.exists_of_bind_eq_ok h
    cases h
    exact ⟨_, rfl⟩
  | null | bool | int | float | string | sequence => cases hmapping

end Yaml.Value

/-! ## Faulty fields -/

namespace Frontmatter

open Json

variable {taxonomy : Taxonomy} {source text key : String} {fields : Members}

/-- A field that is not given, is `null` or is blank. -/
def IsMissing (fields : Members) (key : String) : Prop :=
  fields.get? key = none ∨ fields.get? key = some .null ∨
    ∃ s, fields.get? key = some (.string s) ∧ Text.isAllBlank s = true

/-- A string that is not what its field asks for: a known type, a status or a date. -/
def IsMalformed (taxonomy : Taxonomy) (key s : String) : Prop :=
  key = "type" ∧ s ∉ taxonomy.knownTypes ∨ key = "status" ∧ Status.ofName? s = none ∨
    key ∈ dateFields ∧ Date.read? s = none

/-- A field that a document must have and that is missing or whose string is malformed. -/
def IsFaulty (taxonomy : Taxonomy) (fields : Members) (key : String) : Prop :=
  key ∈ requiredFields ∧
    (IsMissing fields key ∨ ∃ s, fields.get? key = some (.string s) ∧ IsMalformed taxonomy key s)

/-- A field whose string is malformed, and of nothing but blanks but not empty. -/
def IsNamedTwice (taxonomy : Taxonomy) (fields : Members) (key : String) : Prop :=
  ∃ s, fields.get? key = some (.string s) ∧ s ≠ "" ∧ Text.isAllBlank s = true ∧
  IsMalformed taxonomy key s

/-- How often faults name a field. -/
def timesNamed (faults : List FrontmatterFault) (key : String) : Nat :=
  (faults.filterMap (·.field?)).count key

/-- Faults that name every faulty field and no other, twice if it has two faults and once if
not. -/
structure IsReport (taxonomy : Taxonomy) (fields : Members) (faults : List FrontmatterFault) :
    Prop where
  names : ∀ fault ∈ faults, ∃ key before after, fault.field? = some key ∧
    fault.message = before ++ key ++ after ∧
    IsFaulty taxonomy fields key
  once : ∀ key, IsFaulty taxonomy fields key → ¬IsNamedTwice taxonomy fields key →
    timesNamed faults key = 1
  twice : ∀ key, IsNamedTwice taxonomy fields key → timesNamed faults key = 2

/-! ## What is looked for -/

/-- A field is missing if it is not found to be present. -/
theorem isMissing_iff : IsMissing fields key ↔ isPresent fields key = false := by
  unfold IsMissing isPresent
  cases hv : fields.get? key with
  | none => simp
  | some v => cases v <;> simp

/-- Whether a field that every document must have is found to be missing. -/
def isLacking (fields : Members) (key : String) : Bool :=
  requiredFields.contains key && !isPresent fields key

/-- What is found to be missing is missing. -/
theorem isLacking_iff : isLacking fields key = true ↔
    key ∈ requiredFields ∧ IsMissing fields key := by
  rw [isLacking, Bool.and_eq_true, List.contains_iff_mem, Bool.not_eq_true', isMissing_iff]

/-- Whether the string of a field is found to be malformed. Empty strings are passed over. -/
def isFlagged (taxonomy : Taxonomy) (fields : Members) (key : String) : Bool :=
  (text? fields key).any fun s => key == "type" && !taxonomy.isKnownType s ||
    key == "status" && (Status.ofName? s).isNone ||
    dateFields.contains key && (Date.read? s).isNone

/-- What is looked at is the string of a field if it is not empty. -/
theorem mem_text?_iff {s : String} : s ∈ text? fields key ↔
    fields.get? key = some (.string s) ∧ s ≠ "" := by
  unfold text?
  cases hv : fields.get? key with
  | none => simp
  | some v =>
    cases v with
    | string s' =>
      show s ∈ (if s'.isEmpty then none else some s') ↔ _
      split
      case isTrue h =>
        refine iff_of_false (Option.not_mem_none s) ?_
        rintro ⟨hs, hne⟩
        cases hs
        exact hne (String.isEmpty_iff.1 h)
      case isFalse h =>
        constructor
        · intro hs
          cases hs
          exact ⟨rfl, fun hempty => h (String.isEmpty_iff.2 hempty)⟩
        · rintro ⟨hs, -⟩
          cases hs
          rfl
    | _ => simp

/-- What is found to be malformed is a malformed string that is not empty. -/
theorem isFlagged_iff : isFlagged taxonomy fields key = true ↔
    ∃ s, fields.get? key = some (.string s) ∧ s ≠ "" ∧ IsMalformed taxonomy key s := by
  rw [isFlagged, Option.any_eq_true]
  constructor
  · rintro ⟨s, hs, h⟩
    obtain ⟨hget, hempty⟩ := mem_text?_iff.1 hs
    refine ⟨s, hget, hempty, ?_⟩
    simpa [IsMalformed, Taxonomy.isKnownType, or_assoc] using h
  · rintro ⟨s, hget, hempty, h⟩
    refine ⟨s, mem_text?_iff.2 ⟨hget, hempty⟩, ?_⟩
    simpa [IsMalformed, Taxonomy.isKnownType, or_assoc] using h

/-- Faults listed one after another name a field as often as they do apart. -/
theorem timesNamed_append (as bs : List FrontmatterFault) :
    timesNamed (as ++ bs) key = timesNamed as key + timesNamed bs key := by
  rw [timesNamed, List.filterMap_append, List.count_append]
  rfl

/-- A missing field is named once for that. -/
theorem timesNamed_missing :
    timesNamed ((requiredFields.filter fun k => !isPresent fields k).map .missingField) key =
    (isLacking fields key).toNat := by
  have hnodup : requiredFields.Nodup := by decide
  have hmem : key ∈ requiredFields.filter (fun k => !isPresent fields k) ↔
      isLacking fields key = true := by
    rw [isLacking, List.mem_filter, Bool.and_eq_true, List.contains_iff_mem]
  rw [timesNamed, List.filterMap_map, show FrontmatterFault.field? ∘ .missingField = some from rfl,
    List.filterMap_some, (hnodup.filter _).count]
  simp only [hmem]
  cases isLacking fields key <;> rfl

/-- The fault of the string of a field names that field. -/
theorem timesNamed_faultOf {k : String} {faulty : String → Bool}
    {fault : String → FrontmatterFault} (hfault : ∀ s, (fault s).field? = some k) :
    timesNamed (faultOf fields k faulty fault) key =
      (k == key && (text? fields k).any faulty).toNat := by
  unfold timesNamed faultOf
  cases text? fields k with
  | none => simp
  | some s => cases hs : faulty s <;> cases hk : k == key <;> simp_all [Option.filter]

/-- A field is named once for being missing and once for being malformed. -/
theorem timesNamed_faults : timesNamed (faults taxonomy fields) key =
    (isLacking fields key).toNat + (isFlagged taxonomy fields key).toNat := by
  rw [faults, timesNamed_append, timesNamed_append, timesNamed_append, timesNamed_missing,
    timesNamed_faultOf fun _ => rfl, timesNamed_faultOf fun _ => rfl]
  simp only [dateFields, List.flatMap_cons, List.flatMap_nil, timesNamed_append]
  rw [timesNamed_faultOf fun _ => rfl, timesNamed_faultOf fun _ => rfl, Nat.add_assoc,
    Nat.add_assoc]
  congr 1
  -- At most one check is about the field.
  by_cases hkey : key ∈ ["type", "status", "created", "updated"]
  case pos =>
    simp only [List.mem_cons, List.not_mem_nil, or_false] at hkey
    rcases hkey with rfl | rfl | rfl | rfl <;> simp [isFlagged, dateFields, timesNamed]
  case neg =>
    simp only [List.mem_cons, List.not_mem_nil, or_false, not_or] at hkey
    obtain ⟨htype, hstatus, hcreated, hupdated⟩ := hkey
    simp [isFlagged, dateFields, timesNamed, hcreated, hupdated, beq_false_of_ne htype,
      beq_false_of_ne hstatus, beq_false_of_ne (Ne.symm htype), beq_false_of_ne (Ne.symm hstatus),
      beq_false_of_ne (Ne.symm hcreated), beq_false_of_ne (Ne.symm hupdated)]

/-! ## What is reported -/

/-- What is checked of a string is checked of a field that every document must have. -/
theorem IsMalformed.mem_requiredFields {s : String} (h : IsMalformed taxonomy key s) :
    key ∈ requiredFields := by
  have hdates : ∀ k ∈ dateFields, k ∈ requiredFields := by decide
  rcases h with ⟨rfl, -⟩ | ⟨rfl, -⟩ | ⟨hkey, -⟩
  · decide
  · decide
  · exact hdates key hkey

/-- A field is faulty if it is found to be missing or malformed. -/
theorem isFaulty_iff : IsFaulty taxonomy fields key ↔
    isLacking fields key = true ∨ isFlagged taxonomy fields key = true := by
  rw [isLacking_iff, isFlagged_iff]
  constructor
  · rintro ⟨hkey, hmissing | ⟨s, hget, hs⟩⟩
    · exact .inl ⟨hkey, hmissing⟩
    · by_cases hempty : s = ""
      · subst hempty
        exact .inl ⟨hkey, .inr (.inr ⟨"", hget, by decide⟩)⟩
      · exact .inr ⟨s, hget, hempty, hs⟩
  · rintro (⟨hkey, hmissing⟩ | ⟨s, hget, -, hs⟩)
    · exact ⟨hkey, .inl hmissing⟩
    · exact ⟨hs.mem_requiredFields, .inr ⟨s, hget, hs⟩⟩

/-- A field is named twice if it is found to be missing and malformed. -/
theorem isNamedTwice_iff : IsNamedTwice taxonomy fields key ↔
    isLacking fields key = true ∧ isFlagged taxonomy fields key = true := by
  rw [isLacking_iff, isFlagged_iff]
  constructor
  · rintro ⟨s, hget, hempty, hblank, hs⟩
    exact ⟨⟨hs.mem_requiredFields, .inr (.inr ⟨s, hget, hblank⟩)⟩, s, hget, hempty, hs⟩
  · rintro ⟨⟨-, hmissing⟩, s, hget, hempty, hs⟩
    refine ⟨s, hget, hempty, ?_, hs⟩
    rw [IsMissing, hget] at hmissing
    rcases hmissing with hnone | hnull | ⟨s', hs', hblank⟩
    · cases hnone
    · cases hnull
    · cases hs'
      exact hblank

/-- Every fault of fields names a field. -/
theorem exists_field?_of_mem_faults {fault : FrontmatterFault}
    (h : fault ∈ faults taxonomy fields) : ∃ key, fault.field? = some key := by
  simp only [faults, faultOf, List.mem_append, List.mem_map, List.mem_flatMap] at h
  rcases h with ((⟨key, -, rfl⟩ | ⟨code, -, rfl⟩) | ⟨name, -, rfl⟩) | ⟨key, -, text, -, rfl⟩ <;>
    exact ⟨_, rfl⟩

/-- The faults of fields are a report of them. -/
theorem isReport_faults : IsReport taxonomy fields (faults taxonomy fields) := by
  constructor
  case names =>
    intro fault hfault
    obtain ⟨key, hkey⟩ := exists_field?_of_mem_faults hfault
    obtain ⟨before, after, hmessage⟩ := fault.exists_message_eq hkey
    have hnamed : 0 < timesNamed (faults taxonomy fields) key :=
      List.count_pos_iff.2 (List.mem_filterMap.2 ⟨fault, hfault, hkey⟩)
    refine ⟨key, before, after, hkey, hmessage, isFaulty_iff.2 ?_⟩
    rw [timesNamed_faults] at hnamed
    by_contra hnone
    obtain ⟨hgiven, hunflagged⟩ := not_or.1 hnone
    rw [Bool.eq_false_iff.2 hgiven, Bool.eq_false_iff.2 hunflagged] at hnamed
    exact Nat.lt_irrefl 0 hnamed
  case once =>
    intro key hfaulty htwice
    rw [isFaulty_iff] at hfaulty
    rw [isNamedTwice_iff, not_and, Bool.not_eq_true] at htwice
    rw [timesNamed_faults]
    rcases Bool.eq_false_or_eq_true (isLacking fields key) with hlacking | hgiven
    · rw [hlacking, htwice hlacking]
      rfl
    · rw [hgiven, hfaulty.resolve_left (Bool.eq_false_iff.1 hgiven)]
      rfl
  case twice =>
    intro key htwice
    obtain ⟨hlacking, hflagged⟩ := isNamedTwice_iff.1 htwice
    rw [timesNamed_faults, hlacking, hflagged]
    rfl

/-- A report of some faulty field is not empty. -/
theorem IsReport.ne_nil {faults : List FrontmatterFault} (h : IsReport taxonomy fields faults)
    (hkey : IsFaulty taxonomy fields key) : faults ≠ [] := by
  rintro rfl
  have hnever : timesNamed [] key = 0 := rfl
  by_cases htwice : IsNamedTwice taxonomy fields key
  · exact absurd (h.twice key htwice) (by rw [hnever]; decide)
  · exact absurd (h.once key hkey htwice) (by rw [hnever]; decide)

/-- A text with a faulty field is refused for all faults of its fields. -/
theorem readDocument_eq_error_of_isFaulty {f : Frontmatter} {members : Members}
    (hsplit : split? text = some f) (hfields : readFields source f.yaml = .ok members)
    (hkey : IsFaulty taxonomy (keepStrings members) key) :
    readDocument taxonomy source text =
      .error (.invalidDocument source (faults taxonomy (keepStrings members))) := by
  rw [readDocument, hsplit]
  show (readFields source f.yaml >>= _) = _
  rw [hfields]
  show ofFields taxonomy source (keepStrings members) (Text.trim f.body) = _
  unfold ofFields
  split
  case h_1 hnil => exact (isReport_faults.ne_nil hkey hnil).elim
  case h_2 => rfl

/-- **Every fault is reported.** A text whose frontmatter is a mapping with a faulty field is
refused with a report of all faulty fields, unless a key that is no string keeps the mapping from
being an object. -/
theorem readDocument_of_isFaulty (taxonomy : Taxonomy) (source : String) {f : Frontmatter}
    {v : Yaml.Value} (hsplit : split? text = some f) (hread : Yaml.Value.read? f.yaml = some v)
    (hmapping : v.isMapping = true) :
    (∃ members, v.toJson = .ok (.object members) ∧
      ((∃ key, IsFaulty taxonomy (keepStrings members) key) →
      ∃ faults, readDocument taxonomy source text = .error (.invalidDocument source faults) ∧
        IsReport taxonomy (keepStrings members) faults)) ∨
    ¬v.HasStringKeys ∧
      ∃ e, v.toJson = .error e ∧ readDocument taxonomy source text =
        .error (.undecodable (.broken e)) := by
  cases hjson : v.toJson with
  | error e =>
    refine .inr ⟨fun hkeys => ?_, e, rfl, ?_⟩
    · obtain ⟨j, hj⟩ := Yaml.Value.exists_toJson hkeys
      rw [hjson] at hj
      cases hj
    · have hfields : readFields source f.yaml = .error (.undecodable (.broken e)) := by
        simp [readFields, hread, hmapping, hjson]
      rw [readDocument, hsplit]
      show (readFields source f.yaml >>= _) = _
      rw [hfields]
      rfl
  | ok j =>
    obtain ⟨members, rfl⟩ := Yaml.Value.exists_object_of_isMapping hmapping hjson
    have hfields : readFields source f.yaml = .ok members :=
      readFields_eq_ok_iff.2 ⟨v, hread, hmapping, hjson⟩
    refine .inl ⟨members, rfl, ?_⟩
    rintro ⟨key, hkey⟩
    exact ⟨_, readDocument_eq_error_of_isFaulty hsplit hfields hkey, isReport_faults⟩

/-- A text with no more than an unknown type and a blank for the status is refused for these and
for its owner. -/
theorem timesNamed_unknownType :
    let taxonomy := { Taxonomy.canonical with knownTypes := ["MSN"] }
    let text := "---\ntype: XYZ\nstatus: ' '\n---\n"
    ∃ faults, readDocument taxonomy "doc.md" text = .error (.invalidDocument "doc.md" faults) ∧
      timesNamed faults "owner" = 1 ∧ timesNamed faults "type" = 1 ∧
      timesNamed faults "status" = 2 := by
  intro taxonomy text
  have hview : ((split? text).bind fun f => (readFields "doc.md" f.yaml).toOption.map
      fun members =>
      let fields := keepStrings members
      ((fields.get? "owner").isNone, text? fields "type", text? fields "status")) =
        some (true, some "XYZ", some " ") := by decide +kernel
  obtain ⟨f, hsplit, hview⟩ := Option.bind_eq_some_iff.1 hview
  obtain ⟨members, hfields, hview⟩ := Option.map_eq_some_iff.1 hview
  obtain ⟨v, hread, hmapping, hjson⟩ :=
    readFields_eq_ok_iff.1 (Json.eq_ok_of_toOption_eq_some hfields)
  simp only [Prod.mk.injEq, Option.isNone_iff_eq_none] at hview
  obtain ⟨howner, htype, hstatus⟩ := hview
  replace htype := (mem_text?_iff.1 htype).1
  replace hstatus := (mem_text?_iff.1 hstatus).1
  rcases readDocument_of_isFaulty taxonomy "doc.md" hsplit hread hmapping with
    ⟨members', hjson', hreports⟩ | ⟨-, e, herror, -⟩
  · rw [hjson] at hjson'
    cases hjson'
    obtain ⟨faults, hrefused, hreport⟩ := hreports ⟨"owner", by decide, .inl (.inl howner)⟩
    refine ⟨faults, hrefused, hreport.once _ ⟨by decide, .inl (.inl howner)⟩ ?_,
      hreport.once _ ⟨by decide, .inr ⟨"XYZ", htype, .inl ⟨rfl, by decide⟩⟩⟩ ?_,
      hreport.twice _ ⟨" ", hstatus, by decide, by decide, .inr (.inl ⟨rfl, by decide⟩)⟩⟩
    · rintro ⟨s, hs, -⟩
      rw [howner] at hs
      cases hs
    · rintro ⟨s, hs, -, hblank, -⟩
      rw [htype] at hs
      cases hs
      exact absurd hblank (by decide)
  · rw [hjson] at herror
    cases herror

/-- A mission whose type is a blank is refused for two faults, both of which name the type. -/
theorem timesNamed_blankType :
    let taxonomy := { Taxonomy.canonical with knownTypes := ["MSN"] }
    let text :=
      "---\nid: MSN-a\ntitle: A\ntype: ' '\nstatus: Draft\nversion: 1.0.0\nowner: staff\n" ++
      "created: 2024-01-01\nupdated: 2024-01-02\n---\n"
    ∃ faults, readDocument taxonomy "doc.md" text = .error (.invalidDocument "doc.md" faults) ∧
      faults.map (·.message) = ["Missing required field: type", "Invalid document type:  "] ∧
      timesNamed faults "type" = 2 := by
  intro taxonomy text
  have hview : ((split? text).bind fun f => (readFields "doc.md" f.yaml).toOption.map
      fun members =>
      let fields := keepStrings members
      (text? fields "type", (faults taxonomy fields).map (·.message),
        timesNamed (faults taxonomy fields) "type")) =
        some (some " ", ["Missing required field: type", "Invalid document type:  "], 2) := by
          decide +kernel
  obtain ⟨f, hsplit, hview⟩ := Option.bind_eq_some_iff.1 hview
  obtain ⟨members, hfields, hview⟩ := Option.map_eq_some_iff.1 hview
  simp only [Prod.mk.injEq] at hview
  obtain ⟨htype, hmessages, htimes⟩ := hview
  have hfaulty : IsFaulty taxonomy (keepStrings members) "type" :=
    ⟨by decide, .inr ⟨" ", (mem_text?_iff.1 htype).1, .inl ⟨rfl, by decide⟩⟩⟩
  have hrefused :=
    readDocument_eq_error_of_isFaulty hsplit (Json.eq_ok_of_toOption_eq_some hfields) hfaulty
  exact ⟨_, hrefused, hmessages, htimes⟩

end Frontmatter

end Dossier
