import Dossier.Proofs.Document.Field
import Dossier.Proofs.Json.Members

/-!
# What a document says that is read from an object

Members are set one after another, and each sets the field of its key only. So a field of a
document has the value of the member with its key (`SetsField.decode_of_ofJson`), and the members
of no field are kept as they are (`extra_of_ofJson`).
-/

namespace Dossier.Document

open Json

/-! ## Fields that hold a text -/

/-- The fields that every document has and that hold a text. -/
inductive TextField where
  | id
  | title
  | type
  | version
  | owner
  | created
  | updated
  deriving DecidableEq, Repr

namespace TextField

/-- The key of a field. -/
def key : TextField → String
  | id => "id"
  | title => "title"
  | type => "type"
  | version => "version"
  | owner => "owner"
  | created => "created"
  | updated => "updated"

/-- The text in a field. -/
def get (doc : Document) : TextField → String
  | id => doc.id
  | title => doc.title
  | type => doc.type
  | version => doc.version
  | owner => doc.owner
  | created => doc.created
  | updated => doc.updated

/-- The key of a field sets it. -/
theorem setsField (f : TextField) : SetsField f.key (f.get ·) Decoder.string := by
  cases f with
  | id => exact Field.id.setsField
  | title => exact Field.title.setsField
  | type => exact Field.type.setsField
  | version => exact Field.version.setsField
  | owner => exact Field.owner.setsField
  | created => exact Field.created.setsField
  | updated => exact Field.updated.setsField

end TextField

/-- The key of the content sets it. -/
theorem setsField_content : SetsField "content" content Decoder.string := Field.content.setsField

/-! ## Members of other names -/

/-- Whether a member is that of no field. -/
def isExtra (m : String × Value) : Bool := !fieldNames.contains m.1

/-- A member is kept among the extra members if it is that of no field. -/
theorem extra_of_set {doc doc' : Document} {key : String} {v : Value}
    (h : doc.set key v = .ok doc') : doc'.extra = doc.extra ++ [(key, v)].filter isExtra := by
  unfold Document.set at h
  split at h
  case h_27 =>
    cases h
    have hother : key ∉ fieldNames := by
      simp only [fieldNames, List.mem_cons, List.not_mem_nil, or_false, not_or]
      and_intros <;> assumption
    simp [isExtra, hother]
  -- every other key is the name of a field, whose setter leaves `extra` alone
  all_goals
    obtain ⟨_, -, hdoc⟩ := exists_of_bind_eq_ok h
    cases hdoc
    simp [isExtra, fieldNames]

/-- A member of no field is set among the extra members. -/
theorem set_of_not_mem_fieldNames {doc : Document} {key : String} {v : Value}
    (h : key ∉ fieldNames) :
    doc.set key v = .ok { doc with extra := doc.extra ++ [(key, v)] } := by
  unfold Document.set
  split
  case h_27 => rfl
  all_goals exact absurd (by decide) h

/-! ## Members set one after another -/

section

variable {α : Type} {key : String} {field : Document → α} {decode : Decoder α}
  {doc doc' : Document} {members : Members} {v : Value}

/-- A field keeps its value where no member has its key. -/
theorem SetsField.eq_of_setAll (hfield : SetsField key field decode)
    (hnone : members.get? key = none)
    (h : doc.setAll members = .ok doc') : field doc' = field doc := by
  induction members generalizing doc with
  | nil =>
    cases h
    rfl
  | cons first rest ih =>
    rw [Members.get?_cons] at hnone
    split at hnone
    case isTrue => cases hnone
    case isFalse hne =>
      obtain ⟨next, hset, hrest⟩ := exists_of_bind_eq_ok h
      rw [ih hnone hrest, hfield.keeps (Ne.symm hne) hset]

/-- A field has the value of the members with its key, where these have but one. -/
theorem SetsField.decode_of_mem (hfield : SetsField key field decode) (hv : (key, v) ∈ members)
    (honly : ∀ w, (key, w) ∈ members → w = v) (h : doc.setAll members = .ok doc') :
    decode v = .ok (field doc') := by
  induction members generalizing doc with
  | nil => exact absurd hv List.not_mem_nil
  | cons first rest ih =>
    obtain ⟨next, hset, hrest⟩ := exists_of_bind_eq_ok h
    by_cases hlater : (key, v) ∈ rest
    · exact ih hlater (fun w hw => honly w (.tail _ hw)) hrest
    · have hnone : Members.get? rest key = none :=
        Members.get?_eq_none_iff.2 fun w hw => hlater (honly w (.tail _ hw) ▸ hw)
      rw [hfield.eq_of_setAll hnone hrest]
      cases (List.mem_cons.1 hv).resolve_right hlater
      exact hfield.sets hset

/-- A field has the value of the member with its key. -/
theorem SetsField.decode_of_setAll (hfield : SetsField key field decode)
    (hascending : members.Ascending)
    (hv : members.get? key = some v) (h : doc.setAll members = .ok doc') :
    decode v = .ok (field doc') := by
  refine hfield.decode_of_mem (Members.mem_of_get? hv) (fun w hw => ?_) h
  exact Option.some.inj ((hascending.get?_of_mem hw).symm.trans hv)

/-- A document that is read from an object has in each field the value of the member with its
key. -/
theorem SetsField.decode_of_ofJson (hfield : SetsField key field decode)
    (hascending : members.Ascending)
    (hv : members.get? key = some v) (h : ofJson (.object members) = .ok doc) :
    decode v = .ok (field doc) := by
  obtain ⟨read, hread, hdoc⟩ := exists_of_bind_eq_ok h
  obtain ⟨_, -, hdoc⟩ := exists_of_bind_eq_ok hdoc
  cases hdoc
  exact hfield.decode_of_setAll hascending hv hread

/-- Members that are set leave those of no field among the extra members, unchanged and in
order. -/
theorem extra_of_setAll (h : doc.setAll members = .ok doc') :
    doc'.extra = doc.extra ++ members.filter isExtra := by
  induction members generalizing doc with
  | nil =>
    cases h
    exact (List.append_nil _).symm
  | cons first rest ih =>
    obtain ⟨next, hset, hrest⟩ := exists_of_bind_eq_ok h
    rw [ih hrest, extra_of_set hset, List.append_assoc, ← List.filter_append]
    rfl

/-- A document that is read from an object keeps the members of no field in `extra`. -/
theorem extra_of_ofJson (h : ofJson (.object members) = .ok doc) :
    doc.extra = members.filter isExtra := by
  obtain ⟨read, hread, hdoc⟩ := exists_of_bind_eq_ok h
  obtain ⟨_, -, hdoc⟩ := exists_of_bind_eq_ok hdoc
  cases hdoc
  exact (extra_of_setAll hread).trans (List.nil_append _)

end

end Dossier.Document
