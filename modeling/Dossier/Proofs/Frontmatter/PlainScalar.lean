import Dossier.Proofs.Frontmatter.Faults
import Dossier.Proofs.Yaml.Mapping
import Dossier.Proofs.Yaml.Scalar

/-!
# Plain scalars in the fields that stay strings

A field that stays a string has the text of the plain scalar that it is written as, unless the
scalar is read as a number: then it has the text of the number (`get_eq_keptText`). That is the
same text if the scalar is written as numbers are written, and another one for all other spellings,
so that two versions may become one.
-/

namespace Dossier

namespace Yaml.Value

variable {k : Value} {key text : String}

/-- A key that is written by a text that begins no number and is no truth value is the string of
that text. -/
theorem eq_string_of_keyText (hnumber : ¬BeginsNumber key.toList) (htrue : key ≠ "true")
    (hfalse : key ≠ "false") (h : keyText k = .ok key) : k = string key := by
  cases k with
  | string s =>
    cases h
    rfl
  | bool b => cases b <;> cases h <;> contradiction
  | int i =>
    cases h
    exact absurd (beginsNumber_int i) hnumber
  | float x =>
    rw [keyText] at h
    split at h
    case isTrue hx =>
      cases h
      exact absurd (beginsNumber_floatText hx) hnumber
    case isFalse => cases h
  | null | sequence | mapping | tagged => cases h

/-- A plain scalar without a tag is read as what it stands for. -/
theorem exists_scalar_of_isRead {anchored : List (Nat × Node)} {room : Nat} {v : Value}
    (h : IsRead anchored room (.scalar none true text) v) :
    ∃ scalar, Scalar.ofPlain? text = some scalar ∧ v = ofScalar scalar := by
  obtain ⟨left, left', h⟩ := h
  rw [run_ofNode_scalar rfl] at h
  obtain ⟨w, hw, heq⟩ := Option.map_eq_some_iff.1 h
  cases heq
  obtain ⟨scalar, hscalar, rfl⟩ := Option.map_eq_some_iff.1 hw
  exact ⟨scalar, hscalar, rfl⟩

end Yaml.Value

namespace Frontmatter

open Json

variable {taxonomy : Taxonomy} {source text scalar : String} {doc : Document} {members : Members}

/-- The nodes of the anchors and the entries of the mapping that a frontmatter is written as. -/
def mapping? (text : String) : Option (List (Nat × Yaml.Node) × List (Yaml.Node × Yaml.Node)) := do
  let f ← split? text
  let tree ← Yaml.Tree.ofTokens? (← Yaml.Token.ofText? f.yaml)
  match tree.root with
  | some (.mapping _ entries) => return (tree.anchored, entries)
  | _ => none

/-- A text whose frontmatter has an entry with the given key and a plain scalar. -/
def WritesPlain (text key scalar : String) : Prop :=
  ∃ anchored entries k, mapping? text = some (anchored, entries) ∧
  Yaml.Value.Names anchored k key ∧
    (k, .scalar none true scalar) ∈ entries

/-- Whether an entry is written with the given plain scalars. -/
def isPlainEntry (key scalar : String) : Yaml.Node × Yaml.Node → Bool
  | (.scalar none true k, .scalar none true v) => k == key && v == scalar
  | _ => false

/-- A plain key with a plain scalar, where the key is one that is read as a string. -/
theorem writesPlain_of_any {key : String} (hkey : Yaml.Scalar.ofPlain? key = some (.string key))
    (h : ((mapping? text).any fun m => m.2.any (isPlainEntry key scalar)) = true) :
    WritesPlain text key scalar := by
  obtain ⟨⟨anchored, entries⟩, hmapping, hany⟩ := (Option.any_eq_true _ _).1 h
  obtain ⟨⟨k, v⟩, hmem, hentry⟩ := List.any_eq_true.1 hany
  unfold isPlainEntry at hentry
  split at hentry
  case h_1 heq =>
    cases heq
    obtain ⟨rfl, rfl⟩ : _ ∧ _ := by simpa using hentry
    have hstands : Yaml.Value.ofScalarNode none true _ = some (.string _) :=
      congrArg (·.map Yaml.Value.ofScalar) hkey
    exact ⟨anchored, entries, _, hmapping, ⟨none, true, _, rfl, hstands, .inl rfl⟩, hmem⟩
  case h_2 => cases hentry

/-- A frontmatter that is written as a mapping is read as that mapping, maybe with a tag. -/
theorem exists_areRead_of_mapping? {f : Frontmatter} {anchored : List (Nat × Yaml.Node)}
    {entries : List (Yaml.Node × Yaml.Node)} {v : Yaml.Value}
    (h : mapping? text = some (anchored, entries))
    (hsplit : split? text = some f) (hread : Yaml.Value.read? f.yaml = some v) :
    ∃ values, Yaml.Value.AreRead anchored entries values ∧
      (v = .mapping values ∨ ∃ mark name, mark.toList = '!' :: name ∧
        v = .tagged mark (.mapping values)) := by
  rw [mapping?, hsplit, Option.bind_eq_bind, Option.bind_some] at h
  obtain ⟨tokens, htokens, h⟩ := Option.bind_eq_some_iff.1 h
  obtain ⟨tree, htree, h⟩ := Option.bind_eq_some_iff.1 h
  have hvalue : Yaml.Value.ofTree? tree = some v := by
    rw [Yaml.Value.read?, htokens, Option.bind_eq_bind, Option.bind_some, htree] at hread
    exact hread
  split at h
  case h_1 tag _ hroot =>
    cases h
    rw [Yaml.Value.ofTree?, hroot] at hvalue
    obtain ⟨⟨w, left⟩, hrun, hw⟩ := Option.map_eq_some_iff.1 hvalue
    cases hw
    exact Yaml.Value.exists_areRead_of_isRead ⟨_, _, hrun⟩
  case h_2 => cases h

/-- Numbers among the fields that stay strings are looked up as strings. -/
theorem get?_keepStrings (members : Members) (key : String) : (keepStrings members).get? key =
    (members.get? key).map fun v => if stringFields.contains key then numberAsString v else v := by
  induction members with
  | nil => rfl
  | cons first rest ih =>
    obtain ⟨k, v⟩ := first
    have hkeep : keepStrings ((k, v) :: rest) =
        (k, if stringFields.contains k then numberAsString v else v) :: keepStrings rest := rfl
    rw [hkeep, Members.get?_cons, Members.get?_cons, ih]
    by_cases heq : key = k
    · rw [if_pos heq, if_pos heq, heq]
      rfl
    · rw [if_neg heq, if_neg heq]

/-- The key of a field is read from nothing but the string. -/
theorem eq_string_key (field : Document.TextField) (k : Yaml.Value)
    (h : k.keyText = .ok field.key) : k = .string field.key := by
  have hletter : ∃ c rest, field.key.toList = c :: rest ∧ c.isDigit = false ∧ c ≠ '-' := by
    cases field <;> exact ⟨_, _, rfl, by decide, by decide⟩
  refine Yaml.Value.eq_string_of_keyText ?_ (by cases field <;> decide)
    (by cases field <;> decide) h
  rintro ⟨c, rest, hkey, hc⟩
  obtain ⟨c', rest', hkey', hdigit, hminus⟩ := hletter
  cases hkey.symm.trans hkey'
  rcases hc with hc | rfl
  · exact Bool.false_ne_true (hdigit.symm.trans hc)
  · exact hminus rfl

/-- The one member of a value with a local tag is no field. -/
theorem get?_of_toJson_tagged {mark : String} {name : List Char} {v : Yaml.Value}
    (field : Document.TextField) (hmark : mark.toList = '!' :: name)
    (h : (Yaml.Value.tagged mark v).toJson = .ok (.object members)) :
    members.get? field.key = none := by
  rw [Yaml.Value.toJson] at h
  obtain ⟨j, -, h⟩ := exists_of_bind_eq_ok h
  cases h
  have hkey : field.key.toList.head? ≠ some '!' := by cases field <;> decide
  rw [Members.get?_cons, if_neg]
  · rfl
  · rintro rfl
    rw [hmark] at hkey
    exact hkey rfl

/-- A field that is written with a plain scalar has the JSON value of what the scalar stands for,
unless it is not found because of a tag. -/
theorem exists_scalar_of_writesPlain {f : Frontmatter} {field : Document.TextField} {v : Value}
    (h : WritesPlain text field.key scalar) (hsplit : split? text = some f)
    (hfields : readFields source f.yaml = .ok members) (hv : members.get? field.key = some v) :
    ∃ value, Yaml.Scalar.ofPlain? scalar = some value ∧
    (Yaml.Value.ofScalar value).toJson = .ok v := by
  obtain ⟨anchored, entries, k, hmapping, hnames, hmem⟩ := h
  obtain ⟨y, hread, -, hjson⟩ := readFields_eq_ok_iff.1 hfields
  obtain ⟨values, hvalues, rfl | ⟨mark, name, hmark, rfl⟩⟩ :=
    exists_areRead_of_mapping? hmapping hsplit hread
  · obtain ⟨room, ⟨key, w⟩, hm, ⟨_, _, hkey⟩, hw⟩ := hvalues.exists_of_mem hmem
    cases Yaml.Value.eq_of_names hnames hkey
    obtain ⟨value, hvalue, rfl⟩ := Yaml.Value.exists_scalar_of_isRead hw
    rw [Yaml.Value.toJson] at hjson
    obtain ⟨_, hentries, heq⟩ := exists_of_map_eq_ok hjson
    cases heq
    obtain ⟨j, hj, hget⟩ :=
      Yaml.Value.exists_get?_of_entriesToJson hvalues.distinct (eq_string_key field) hm hentries
    cases hv.symm.trans hget
    exact ⟨value, hvalue, hj⟩
  · rw [get?_of_toJson_tagged field hmark hjson] at hv
    cases hv

/-- What a scalar is kept by as a string is the text that is kept of it. -/
theorem eq_keptText {value : Yaml.Scalar} {v : Value} {s : String}
    (hvalue : Yaml.Scalar.ofPlain? scalar = some value)
    (hjson : (Yaml.Value.ofScalar value).toJson = .ok v) (hkept : numberAsString v = .string s) :
    s = Yaml.keptText scalar := by
  rw [Yaml.keptText, hvalue, Option.bind_some]
  cases value with
  | null | bool =>
    cases hjson
    cases hkept
  | int i =>
    cases hjson
    cases hkept
    rfl
  | float x =>
    rw [Yaml.Value.ofScalar, Yaml.Value.toJson] at hjson
    cases hjson
    rw [Yaml.Scalar.numberText?]
    split at hkept
    case isTrue hx =>
      cases hkept
      rw [if_pos hx, Option.getD_some]
    case isFalse => cases hkept
  | string own =>
    cases hjson
    cases hkept
    exact Yaml.eq_of_ofPlain? hvalue

/-- **A field that is written as a plain scalar has the text that is kept of the scalar.** That is
the text of the scalar if and only if the scalar is not read as a number, or is the text of a
number. -/
theorem get_eq_keptText (h : readDocument taxonomy source text = .ok doc)
    (field : Document.TextField)
    (hplain : WritesPlain text field.key scalar) : field.get doc = Yaml.keptText scalar ∧
      (field.get doc = scalar ↔ (Yaml.ReadsAsNumber scalar → Yaml.IsNumberText scalar)) := by
  obtain ⟨f, members, hsplit, hfields, hdoc⟩ := readDocument_eq_ok_iff.1 h
  obtain ⟨hfaultless, read, hread, rfl⟩ := ofFields_eq_ok_iff.1 hdoc
  have hget : field.get { read with source := some source } = field.get read := by
    cases field <;> rfl
  have hstays : stringFields.contains field.key = true := by cases field <;> decide
  have hkept := ascending_keepStrings (ascending_of_readFields hfields)
  have hstring := (mem_text?_iff.1 (text?_eq_of_ofJson hkept hfaultless hread field).1).1
  rw [get?_keepStrings, hstays] at hstring
  obtain ⟨v, hv, hstring⟩ := Option.map_eq_some_iff.1 hstring
  obtain ⟨value, hvalue, hjson⟩ := exists_scalar_of_writesPlain hplain hsplit hfields hv
  have heq : field.get read = Yaml.keptText scalar := eq_keptText hvalue hjson hstring
  rw [hget, heq]
  exact ⟨rfl, Yaml.keptText_eq_self_iff⟩

/-- A mission whose version is written as the text of a double, and whose owner is a number in base
sixteen. -/
theorem get_hexadecimalOwner :
    let taxonomy := { Taxonomy.canonical with knownTypes := ["MSN"] }
    let text :=
      "---\nid: MSN-a\ntitle: A\ntype: MSN\nstatus: Draft\nversion: 2.0\nowner: 0x1F\n" ++
      "created: 2024-01-01\nupdated: 2024-01-02\n---\n"
    ∃ doc, readDocument taxonomy "doc.md" text = .ok doc ∧ doc.version = "2.0" ∧
      Yaml.IsNumberText "2.0" ∧
      doc.owner = "31" ∧ ¬Yaml.IsNumberText "0x1F" := by
  intro taxonomy text
  have hread : (readDocument taxonomy "doc.md" text).toOption.isSome = true := by decide +kernel
  obtain ⟨doc, hread⟩ := Option.isSome_iff_exists.1 hread
  replace hread := eq_ok_of_toOption_eq_some hread
  have hplainVersion : WritesPlain text Document.TextField.version.key "2.0" :=
    writesPlain_of_any rfl (by decide +kernel)
  have hplainOwner : WritesPlain text Document.TextField.owner.key "0x1F" :=
    writesPlain_of_any rfl (by decide +kernel)
  obtain ⟨hversion, hspelled⟩ := get_eq_keptText hread .version hplainVersion
  obtain ⟨howner, hother⟩ := get_eq_keptText hread .owner hplainOwner
  rw [show Yaml.keptText "2.0" = "2.0" by decide +kernel] at hversion
  rw [show Yaml.keptText "0x1F" = "31" by decide +kernel] at howner
  refine ⟨doc, hread, hversion, hspelled.1 hversion (by decide +kernel), howner, fun htext => ?_⟩
  have hself := hother.2 fun _ => htext
  rw [howner] at hself
  exact absurd hself (by decide)

/-- A mission of version 1.10 is read as one of version 1.1. -/
theorem get_ne_scalar_version :
    let taxonomy := { Taxonomy.canonical with knownTypes := ["MSN"] }
    let text :=
      "---\nid: MSN-a\ntitle: A\ntype: MSN\nstatus: Draft\nversion: 1.10\nowner: staff\n" ++
      "created: 2024-01-01\nupdated: 2024-01-02\n---\n"
    ∃ doc, readDocument taxonomy "doc.md" text = .ok doc ∧ WritesPlain text "version" "1.10" ∧
      doc.version = "1.1" ∧ doc.version ≠ "1.10" := by
  intro taxonomy text
  have hview : ((readDocument taxonomy "doc.md" text).toOption.map (·.version)) = some "1.1" := by
    decide +kernel
  obtain ⟨doc, hread, hversion⟩ := Option.map_eq_some_iff.1 hview
  refine ⟨doc, eq_ok_of_toOption_eq_some hread, writesPlain_of_any rfl (by decide +kernel),
    hversion, ?_⟩
  rw [hversion]
  decide

end Frontmatter

end Dossier
