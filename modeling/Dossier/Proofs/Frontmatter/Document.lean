import Dossier.Frontmatter.Document
import Dossier.Proofs.Document.Json

/-!
# What is read passes the checks

A text is read as a document only if its fields have no faults, and the fields of the document are
those that the checks saw. So the dates of a document that is read are dates of the calendar
(`isSome_dates_of_readDocument`).
-/

namespace Dossier.Yaml.Value

open Json

/-! ## The order of members -/

/-- Entries that are set among members in order leave them in order. -/
theorem ascending_of_entriesToJson {done members : Members} {entries : List (Value × Value)}
    (hdone : done.Ascending) (h : entriesToJson done entries = .ok members) :
    members.Ascending := by
  induction entries generalizing done with
  | nil =>
    rw [entriesToJson] at h
    cases h
    exact hdone
  | cons entry rest ih =>
    obtain ⟨k, v⟩ := entry
    rw [entriesToJson] at h
    obtain ⟨key, -, h⟩ := Json.exists_of_bind_eq_ok h
    obtain ⟨value, -, h⟩ := Json.exists_of_bind_eq_ok h
    exact ih hdone.put h

/-- A value that becomes an object has its members in order. -/
theorem ascending_of_toJson {v : Value} {members : Members}
    (h : v.toJson = .ok (.object members)) : members.Ascending := by
  cases v with
  | mapping entries =>
    rw [toJson] at h
    cases hentries : entriesToJson [] entries with
    | error e =>
      rw [hentries] at h
      cases h
    | ok done =>
      rw [hentries] at h
      cases h
      exact ascending_of_entriesToJson List.Pairwise.nil hentries
  | tagged tag v =>
    rw [toJson] at h
    obtain ⟨value, -, h⟩ := Json.exists_of_bind_eq_ok h
    cases h
    exact List.pairwise_singleton ..
  | sequence items =>
    rw [toJson] at h
    cases hitems : itemsToJson items <;> rw [hitems] at h <;> cases h
  | float x =>
    rw [toJson] at h
    split at h <;> cases h
  | null | bool b | int i | string s =>
    rw [toJson] at h
    cases h

end Dossier.Yaml.Value

namespace Dossier.Frontmatter

open Json

variable {taxonomy taxonomy' : Taxonomy} {source text content key : String} {fields : Members}
  {doc : Document}

/-- Frontmatter gives the members of a mapping. -/
theorem readFields_eq_ok_iff {yaml : String} : readFields source yaml = .ok fields ↔
    ∃ v, Yaml.Value.read? yaml = some v ∧ v.isMapping = true ∧
    v.toJson = .ok (.object fields) := by
  unfold readFields
  constructor
  · intro h
    split at h
    · cases h
    case h_2 v hv =>
      split at h
      case isTrue hmapping =>
        split at h
        case h_1 hjson =>
          cases h
          exact ⟨v, hv, hmapping, hjson⟩
        all_goals cases h
      case isFalse => cases h
  · rintro ⟨v, hv, hmapping, hjson⟩
    rw [hv]
    simp only [hmapping, hjson, if_true]

/-- The fields that frontmatter gives are in order. -/
theorem ascending_of_readFields {yaml : String} (h : readFields source yaml = .ok fields) :
    fields.Ascending := by
  obtain ⟨v, -, -, hjson⟩ := readFields_eq_ok_iff.1 h
  exact Yaml.Value.ascending_of_toJson hjson

/-- Numbers that stay strings keep their fields in order. -/
theorem ascending_keepStrings (h : fields.Ascending) : (keepStrings fields).Ascending :=
  List.pairwise_map.2 h

/-! ## Checks -/

/-- Fields without faults: those that every document must have are given, and what is checked is
known or is a date. -/
structure Faultless (taxonomy : Taxonomy) (fields : Members) : Prop where
  present : ∀ key ∈ requiredFields, isPresent fields key = true
  type : ∀ code ∈ text? fields "type", taxonomy.isKnownType code = true
  status : ∀ name ∈ text? fields "status", (Status.ofName? name).isSome = true
  date : ∀ key ∈ dateFields, ∀ text ∈ text? fields key, (Date.read? text).isSome = true

/-- A string has no fault if it is not faulty. -/
theorem faultOf_eq_nil_iff {faulty : String → Bool} {fault : String → FrontmatterFault} :
    faultOf fields key faulty fault = [] ↔ ∀ s ∈ text? fields key, faulty s = false := by
  rw [faultOf, List.map_eq_nil_iff]
  cases text? fields key with
  | none => simp
  | some s => cases h : faulty s <;> simp [h]

/-- No faults are listed if the fields have none. -/
theorem faults_eq_nil_iff : faults taxonomy fields = [] ↔ Faultless taxonomy fields := by
  simp only [faults, List.append_eq_nil_iff, List.map_eq_nil_iff, List.filter_eq_nil_iff,
    List.flatMap_eq_nil_iff, faultOf_eq_nil_iff]
  constructor
  · rintro ⟨⟨⟨hpresent, htype⟩, hstatus⟩, hdate⟩
    exact ⟨by simpa using hpresent, by simpa using htype, by simpa using hstatus,
      by simpa using hdate⟩
  · rintro ⟨hpresent, htype, hstatus, hdate⟩
    exact ⟨⟨⟨by simpa using hpresent, by simpa using htype⟩, by simpa using hstatus⟩,
      by simpa using hdate⟩

/-! ## Documents -/

/-- Fields make a document if they have no faults and can be decoded. -/
theorem ofFields_eq_ok_iff : ofFields taxonomy source fields content = .ok doc ↔
    Faultless taxonomy fields ∧ ∃ read, Document.ofJson (.object (decodedFields fields content)) =
      .ok read ∧
      doc = { read with source := some source } := by
  rw [← faults_eq_nil_iff]
  unfold ofFields
  constructor
  · intro h
    split at h
    case h_1 hfaults =>
      refine ⟨hfaults, ?_⟩
      split at h
      case h_1 read hread =>
        cases h
        exact ⟨read, hread, rfl⟩
      case h_2 => cases h
    case h_2 => cases h
  · rintro ⟨hfaults, read, hread, rfl⟩
    rw [hfaults, hread]

/-- A text is read as a document if it has frontmatter whose fields make that document. -/
theorem readDocument_eq_ok_iff : readDocument taxonomy source text = .ok doc ↔
    ∃ f fields, split? text = some f ∧ readFields source f.yaml = .ok fields ∧
      ofFields taxonomy source (keepStrings fields) (Text.trim f.body) = .ok doc := by
  unfold readDocument
  constructor
  · intro h
    split at h
    case h_1 => cases h
    case h_2 f hf =>
      obtain ⟨fields, hfields, h⟩ := Json.exists_of_bind_eq_ok h
      exact ⟨f, fields, hf, hfields, h⟩
  · rintro ⟨f, fields, hf, hfields, h⟩
    rw [hf]
    show (readFields source f.yaml >>= _) = _
    rw [hfields]
    exact h

/-- The fields that are decoded are in order. -/
theorem ascending_decodedFields (h : fields.Ascending) :
    (decodedFields fields content).Ascending := by
  have hwithout : (withoutNulls fields).Ascending := h.sublist List.filter_sublist
  exact hwithout.put.drop "source"

/-- What is decoded of a field other than the content and the source is what it gives, unless it is
`null`. -/
theorem get?_decodedFields (h : fields.Ascending) (hcontent : key ≠ "content")
    (hsource : key ≠ "source") :
    (decodedFields fields content).get? key = (fields.get? key).filter (!·.isNull) := by
  have hwithout : (withoutNulls fields).Ascending := h.sublist List.filter_sublist
  rw [decodedFields, hwithout.put.get?_drop_of_ne hsource, Members.get?_put_of_ne hcontent,
    withoutNulls, h.get?_filter]

/-- A field that is given has a value that is not `null`, and that is not blank if it is a
string. -/
theorem isPresent_iff : isPresent fields key = true ↔
    ∃ v, fields.get? key = some v ∧ v.isNull = false ∧
      ∀ s, v = .string s → Text.isAllBlank s = false := by
  unfold isPresent
  cases hv : fields.get? key with
  | none => simp
  | some v => cases v <;> simp [Value.isNull]

/-- What is decoded as a string is a string. -/
theorem eq_string_of_decode {v : Value} {s : String} (h : Decoder.string v = .ok s) :
    v = .string s := by
  cases v <;> cases h
  rfl

/-- A document that is read has in each field with a text the text that the checks saw there, which
is not blank. -/
theorem text?_eq_of_ofJson {read : Document} (hfields : fields.Ascending)
    (hfaultless : Faultless taxonomy fields)
    (h : Document.ofJson (.object (decodedFields fields content)) = .ok read)
    (f : Document.TextField) :
    text? fields f.key = some (f.get read) ∧ Text.isAllBlank (f.get read) = false := by
  have hrequired : f.key ∈ requiredFields := by cases f <;> decide
  obtain ⟨v, hv, hnull, hblank⟩ := isPresent_iff.1 (hfaultless.present f.key hrequired)
  have hdecoded : (decodedFields fields content).get? f.key = some v := by
    have hcontent : f.key ≠ "content" := by cases f <;> decide
    have hsource : f.key ≠ "source" := by cases f <;> decide
    rw [get?_decodedFields hfields hcontent hsource, hv]
    simp [Option.filter, hnull]
  have hstring : v = .string (f.get read) :=
    eq_string_of_decode (f.setsField.decode_of_ofJson (ascending_decodedFields hfields) hdecoded h)
  have hempty : (f.get read).isEmpty = false := by
    rw [Bool.eq_false_iff]
    intro hempty
    rw [String.isEmpty_iff.1 hempty] at hstring
    exact absurd (hblank _ hstring) (by decide)
  rw [text?, hv, hstring]
  simp [hempty, hblank _ hstring]

/-- **The dates of a document that is read are dates of the calendar.** -/
theorem isSome_dates_of_readDocument (h : readDocument taxonomy source text = .ok doc) :
    (Date.read? doc.created).isSome = true ∧ (Date.read? doc.updated).isSome = true := by
  obtain ⟨f, fields, -, hfields, h⟩ := readDocument_eq_ok_iff.1 h
  obtain ⟨hfaultless, read, hread, rfl⟩ := ofFields_eq_ok_iff.1 h
  have hkept := ascending_keepStrings (ascending_of_readFields hfields)
  have htext (f : Document.TextField) : f.get read ∈ text? (keepStrings fields) f.key :=
    (text?_eq_of_ofJson hkept hfaultless hread f).1
  exact ⟨hfaultless.date "created" (.head _) _ (htext .created),
    hfaultless.date "updated" (.tail _ (.head _)) _ (htext .updated)⟩

/-- A text is read alike where more types are known. -/
theorem readDocument_mono (hknown : ∀ code, taxonomy.isKnownType code = true →
    taxonomy'.isKnownType code = true)
    (h : readDocument taxonomy source text = .ok doc) :
    readDocument taxonomy' source text = .ok doc := by
  obtain ⟨f, fields, hf, hfields, h⟩ := readDocument_eq_ok_iff.1 h
  obtain ⟨hfaultless, hread⟩ := ofFields_eq_ok_iff.1 h
  have hmore : Faultless taxonomy' (keepStrings fields) :=
    { hfaultless with type := fun code hcode => hknown code (hfaultless.type code hcode) }
  exact readDocument_eq_ok_iff.2 ⟨f, fields, hf, hfields, ofFields_eq_ok_iff.2 ⟨hmore, hread⟩⟩

end Dossier.Frontmatter
