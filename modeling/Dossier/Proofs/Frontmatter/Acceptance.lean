import Dossier.Proofs.Frontmatter.Document
import Dossier.Proofs.Validation.Check
import Dossier.Validation.Report

/-!
# What can be relied on after reading

A text is read as a document only if its frontmatter passes the checks, and decoding then changes
nothing that the checks saw. So the document has the texts that it must have, its content and its
source come from where they should, and every other member of the frontmatter is kept as it is
(`isFaithful_of_readDocument`). Hence validation need not look for an owner, and always compares
the dates.
-/

namespace Dossier.Frontmatter

open Json

variable {taxonomy taxonomy' : Taxonomy} {source text content : String} {fields members : Members}
  {doc : Document} {c? : Option Collection}

/-! ## Members of no field -/

/-- The members that are kept as they are: those that are not `null` and of no field. -/
def keptMembers (members : Members) : Members :=
  members.filter fun m => !m.2.isNull && Document.isExtra m

/-- Numbers are turned into strings in fields only. -/
theorem keptMembers_keepStrings (members : Members) :
    keptMembers (keepStrings members) = keptMembers members := by
  have hfields : ∀ key ∈ stringFields, key ∈ Document.fieldNames := by decide
  induction members with
  | nil => rfl
  | cons first rest ih =>
    obtain ⟨key, v⟩ := first
    have hkeep : keepStrings ((key, v) :: rest) =
        (key, if stringFields.contains key then numberAsString v else v) :: keepStrings rest := rfl
    by_cases hkey : key ∈ stringFields
    · have hfield := hfields key hkey
      simpa [hkeep, keptMembers, Document.isExtra, hfield] using ih
    · rw [hkeep, if_neg (by simpa using hkey), keptMembers, keptMembers, List.filter_cons,
        List.filter_cons, ← keptMembers, ← keptMembers, ih]

/-- What is decoded keeps the members of no field that are not `null`: the content and the source
are fields. -/
theorem filter_isExtra_decodedFields :
    (decodedFields fields content).filter Document.isExtra = keptMembers fields := by
  have hsource (m : String × Value) : (Document.isExtra m && m.1 != "source") =
      Document.isExtra m := by
    by_cases h : m.1 = "source"
    · simp [Document.isExtra, Document.fieldNames, h]
    · simp [h]
  have hcontent (v : Value) : Document.isExtra ("content", v) = false := by
    simp [Document.isExtra, Document.fieldNames]
  rw [decodedFields, Members.drop, List.filter_filter]
  simp only [hsource]
  rw [Members.filter_put hcontent, withoutNulls, List.filter_filter, keptMembers]
  simp only [Bool.and_comm]

/-! ## The document -/

/-- A document that says what the members of a frontmatter and a body say, and whose fields pass
the checks. -/
structure IsFaithful (taxonomy : Taxonomy) (source body : String) (members : Members)
    (doc : Document) : Prop where
  notBlank : ∀ f : Document.TextField, Text.isAllBlank (f.get doc) = false
  type_known : taxonomy.isKnownType doc.type = true
  /-- Members with the keys of the content and the source count for nothing. -/
  content_eq : doc.content = Text.trim body
  source_eq : doc.source = some source
  extra_eq : doc.extra = keptMembers members

/-- What is decoded of fields without faults says what they say. -/
theorem isFaithful_of_ofFields {body : String} (hmembers : members.Ascending)
    (h : ofFields taxonomy source (keepStrings members) (Text.trim body) = .ok doc) :
    IsFaithful taxonomy source body members doc := by
  obtain ⟨hfaultless, read, hread, rfl⟩ := ofFields_eq_ok_iff.1 h
  have hkept := ascending_keepStrings hmembers
  have hascending : (decodedFields (keepStrings members) (Text.trim body)).Ascending :=
    ascending_decodedFields hkept
  have htext (f : Document.TextField) := text?_eq_of_ofJson hkept hfaultless hread f
  have hcontent : (decodedFields (keepStrings members) (Text.trim body)).get? "content" =
      some (.string (Text.trim body)) := by
    have hwithout : (withoutNulls (keepStrings members)).Ascending :=
      hkept.sublist List.filter_sublist
    rw [decodedFields, hwithout.put.get?_drop_of_ne (by decide), Members.get?_put_self]
  constructor
  case notBlank =>
    intro f
    have hget : f.get { read with source := some source } = f.get read := by cases f <;> rfl
    rw [hget]
    exact (htext f).2
  case type_known => exact hfaultless.type _ (htext .type).1
  case content_eq =>
    exact (Except.ok.inj
      (Document.setsField_content.decode_of_ofJson hascending hcontent hread)).symm
  case source_eq => rfl
  case extra_eq =>
    show read.extra = _
    rw [Document.extra_of_ofJson hread, filter_isExtra_decodedFields, keptMembers_keepStrings]

/-- The fields of a frontmatter are the members of an object. -/
theorem exists_of_readFields {yaml : String} (h : readFields source yaml = .ok fields) :
    ∃ v, Yaml.Value.read? yaml = some v ∧ v.toJson = .ok (.object fields) := by
  obtain ⟨v, hv, -, hjson⟩ := readFields_eq_ok_iff.1 h
  exact ⟨v, hv, hjson⟩

/-- **A document that is read is faithful to its text.** Its dates are days of the calendar, so
validation, be it with any taxonomy and in any collection, never misses its owner and always
compares its dates. -/
theorem isFaithful_of_readDocument (h : readDocument taxonomy source text = .ok doc) :
    (∃ f v members, split? text = some f ∧ Yaml.Value.read? f.yaml = some v ∧
      v.toJson = .ok (.object members) ∧ IsFaithful taxonomy source f.body members doc) ∧
    ∃ created updated, Date.read? doc.created = some created ∧
    Date.read? doc.updated = some updated ∧
      ∀ (taxonomy' : Taxonomy) (c? : Option Collection),
        .missingOwner ∉ (Validation.validate taxonomy' c? doc).issues ∧
          (.invalidDateSequence ∈ (Validation.validate taxonomy' c? doc).issues ↔
            updated.before created = true) := by
  obtain ⟨hcreated, hupdated⟩ := isSome_dates_of_readDocument h
  obtain ⟨created, hcreated⟩ := Option.isSome_iff_exists.1 hcreated
  obtain ⟨updated, hupdated⟩ := Option.isSome_iff_exists.1 hupdated
  obtain ⟨f, members, hf, hmembers, hdoc⟩ := readDocument_eq_ok_iff.1 h
  obtain ⟨v, hv, hjson⟩ := exists_of_readFields hmembers
  have hfaithful := isFaithful_of_ofFields (ascending_of_readFields hmembers) hdoc
  refine ⟨⟨f, v, members, hf, hv, hjson, hfaithful⟩, created, updated, hcreated, hupdated,
    fun taxonomy' c? => ?_⟩
  constructor
  · intro hissue
    have howner : Text.isAllBlank doc.owner = true :=
      Validation.missingOwner_mem_checkDocument.1 hissue
    exact Bool.false_ne_true ((hfaithful.notBlank .owner).symm.trans howner)
  · have hreversed : Validation.datesReversed doc = updated.before created := by
      rw [Validation.datesReversed, hcreated, hupdated]
    rw [← hreversed]
    exact Validation.invalidDateSequence_mem_checkDocument

/-- A mission whose version is a number, whose frontmatter has a content and a source of its own,
and which has a member of no field and one that is `null`. -/
theorem isFaithful_mission :
    let taxonomy := { Taxonomy.canonical with knownTypes := ["MSN"] }
    let text :=
      "---\nid: MSN-a\ntitle: A\ntype: MSN\nstatus: Draft\nversion: 2\nowner: staff\n" ++
      "created: 2024-02-01\nupdated: 2024-01-31\ncontent: [1]\nsource: 7\n" ++
      "markets: [eu, us]\nnotes:\n---\n\n Body \n"
    ∃ doc, readDocument taxonomy "mission.md" text = .ok doc ∧ doc.version = "2" ∧
      doc.content = "Body" ∧
      doc.source = some "mission.md" ∧ doc.extra.map (·.1) = ["markets"] ∧
      ∀ c?, .missingOwner ∉ (Validation.validate taxonomy c? doc).issues := by
  intro taxonomy text
  have hview : ((readDocument taxonomy "mission.md" text).toOption.map fun doc =>
      (doc.version, doc.content, doc.source, doc.extra.map (·.1))) =
        some ("2", "Body", some "mission.md", ["markets"]) := by decide +kernel
  obtain ⟨doc, hread, hdoc⟩ := Option.map_eq_some_iff.1 hview
  obtain ⟨hversion, hcontent, hsource, hextra⟩ : doc.version = "2" ∧ doc.content = "Body" ∧
      doc.source = some "mission.md" ∧ doc.extra.map (·.1) = ["markets"] := by simpa using hdoc
  replace hread := Json.eq_ok_of_toOption_eq_some hread
  obtain ⟨-, _, _, -, -, hvalidated⟩ := isFaithful_of_readDocument hread
  exact ⟨doc, hread, hversion, hcontent, hsource, hextra, fun c? => (hvalidated taxonomy c?).1⟩

end Dossier.Frontmatter
