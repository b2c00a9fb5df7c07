import Dossier.Proofs.Document.Json

/-!
# Documents written and read again

Members tell a document if they say of every field what is written of it, and have beside that the
extra members in their order (`Tells`). Such members are read as the document, in whatever order
they stand (`ofJson_of_tells`): a field that is written is read back, and one that is left out has
what the least document has. What a document writes tells it if no extra member has the key of a
field (`KeysApart`), and of a document that is read this always holds. So nothing is lost or gained
when a document is written and read (`roundTrip_ofJson`).
-/

namespace Dossier.Document

open Json

variable {doc : Document} {members members' : Members} {key : String} {v : Value} {f : Field}

/-! ## Members that are read as a document -/

/-- What is written of a field, unless it is left out. -/
def Field.written (doc : Document) (f : Field) : Option Value := f.format.write (f.get doc)

/-- Members that say of every field what is written of it, and beside that the extra members in
their order. -/
structure Tells (members : Members) (doc : Document) : Prop where
  mem_iff : ∀ (f : Field) (v : Value), (f.key, v) ∈ members ↔ f.written doc = some v
  filter_isExtra : members.filter isExtra = doc.extra

/-- Every required field is written. -/
theorem exists_written_of_mem_requiredNames (doc : Document) (h : key ∈ requiredNames) :
    ∃ f v, Field.key f = key ∧ f.written doc = some v := by
  have hkeys : requiredNames =
      [Field.id, .title, .type, .status, .version, .owner, .created, .updated].map Field.key := rfl
  rw [hkeys] at h
  obtain ⟨f, hf, rfl⟩ := List.mem_map.1 h
  cases f with
  | id | title | type | status | version | owner | created | updated => exact ⟨_, _, rfl, rfl⟩
  | _ => exact absurd hf (by decide)

/-- Members of which all that are fields can be read are set one after another. -/
theorem exists_setAll (hread : ∀ (f : Field) v, (f.key, v) ∈ members →
    ∃ a, f.format.read v = .ok a)
    (doc : Document) : ∃ doc', doc.setAll members = .ok doc' := by
  induction members generalizing doc with
  | nil => exact ⟨doc, rfl⟩
  | cons first rest ih =>
    obtain ⟨key, v⟩ := first
    obtain ⟨next, hnext⟩ : ∃ next, doc.set key v = .ok next := by
      by_cases hkey : key ∈ fieldNames
      · rw [← Field.map_key_all] at hkey
        obtain ⟨f, -, rfl⟩ := List.mem_map.1 hkey
        obtain ⟨a, ha⟩ := hread f v (.head _)
        exact f.exists_set doc ha
      · exact ⟨_, set_of_not_mem_fieldNames hkey⟩
    obtain ⟨doc', hdoc'⟩ := ih (fun f v hv => hread f v (.tail _ hv)) next
    exact ⟨doc', by rw [setAll, hnext]; exact hdoc'⟩

/-- A document is read from the members that tell it. -/
theorem ofJson_of_tells (h : Tells members doc) : ofJson (.object members) = .ok doc := by
  have hreadable (f : Field) (v : Value) (hv : (f.key, v) ∈ members) : f.format.read v =
      .ok (f.get doc) :=
    f.readsBack_format _ v ((h.mem_iff f v).1 hv)
  obtain ⟨read, hread⟩ := exists_setAll (fun f v hv => ⟨_, hreadable f v hv⟩) (named "" "")
  have hget (f : Field) : f.get read = f.get doc := by
    cases hwritten : f.written doc with
    | none =>
      have hnone : members.get? f.key = none := Members.get?_eq_none_iff.2 fun v hv =>
        Option.some_ne_none v (((h.mem_iff f v).1 hv).symm.trans hwritten)
      rw [f.setsField.eq_of_setAll hnone hread]
      exact (f.get_eq_of_write_eq_none hwritten).symm
    | some v =>
      have hv := (h.mem_iff f v).2 hwritten
      have honly (w : Value) (hw : (f.key, w) ∈ members) : w = v :=
        Option.some.inj (((h.mem_iff f w).1 hw).symm.trans hwritten)
      exact Except.ok.inj
        ((f.setsField.decode_of_mem hv honly hread).symm.trans (hreadable f v hv))
  have hextra : read.extra = doc.extra :=
    (extra_of_setAll hread).trans ((List.nil_append _).trans h.filter_isExtra)
  have hrequired : requireFields requiredNames members = .ok () := by
    rw [requireFields, List.find?_eq_none.2]
    intro name hname
    obtain ⟨f, v, rfl, hwritten⟩ := exists_written_of_mem_requiredNames doc hname
    rw [Option.isNone_iff_eq_none, Members.get?_eq_none_iff]
    exact fun hnone => hnone v ((h.mem_iff f v).2 hwritten)
  rw [ofJson, hread]
  show (requireFields requiredNames members >>= fun _ => Except.ok read) = _
  rw [hrequired, ← eq_of_forall_get hget hextra]
  rfl

/-! ## What a document writes -/

theorem mem_optionMember {k : String} {w : Option Value} : (k, v) ∈ optionMember key w ↔
    k = key ∧ w = some v := by
  cases w <;> simp [optionMember, eq_comm]

theorem listMember_eq (key : String) (ss : List String) :
    listMember key ss = optionMember key (Format.listUnlessEmpty.write ss) := by
  cases ss <;> rfl

/-- A document writes its fields in their order. -/
theorem fieldMembers_eq (doc : Document) :
    doc.fieldMembers = Field.all.flatMap fun f => optionMember f.key (f.written doc) := by
  simp only [fieldMembers, listMember_eq, List.append_assoc, List.cons_append, List.nil_append,
    Field.all, List.flatMap_cons, List.flatMap_nil, List.append_nil]
  rfl

/-- What is written of a field is one of the members that a document writes. -/
theorem mem_fieldMembers_iff : (key, v) ∈ doc.fieldMembers ↔
    ∃ f, Field.key f = key ∧ f.written doc = some v := by
  rw [fieldMembers_eq, List.mem_flatMap]
  simp only [mem_optionMember]
  constructor
  · rintro ⟨f, -, rfl, hv⟩
    exact ⟨f, rfl, hv⟩
  · rintro ⟨f, rfl, hv⟩
    exact ⟨f, by cases f <;> decide, rfl, hv⟩

/-- A document writes no field twice. -/
theorem nodup_keys_fieldMembers (doc : Document) : (doc.fieldMembers.map (·.1)).Nodup := by
  have hsub (fs : List Field) :
      ((fs.flatMap fun f => optionMember f.key (f.written doc)).map (·.1)).Sublist
        (fs.map Field.key) := by
    induction fs with
    | nil => exact .slnil
    | cons f rest ih =>
      rw [List.flatMap_cons, List.map_append]
      cases f.written doc with
      | none => exact ih.cons _
      | some v => exact ih.cons_cons _
  rw [fieldMembers_eq]
  exact (hsub Field.all).nodup (by decide)

/-- The extra members have other keys than the fields. -/
def KeysApart (doc : Document) : Prop := ∀ m ∈ doc.extra, m.1 ∉ fieldNames

/-- What a document writes tells it, if the extra members have keys of their own. -/
theorem tells_written (h : doc.KeysApart) : Tells (doc.fieldMembers ++ doc.extra) doc where
  mem_iff f v := by
    rw [List.mem_append, mem_fieldMembers_iff]
    constructor
    · rintro (⟨g, hkey, hv⟩ | hextra)
      · cases Field.key_injective hkey
        exact hv
      · exact absurd f.key_mem_fieldNames (h _ hextra)
    · exact fun hv => .inl ⟨f, rfl, hv⟩
  filter_isExtra := by
    have hfields : doc.fieldMembers.filter isExtra = [] := by
      rw [List.filter_eq_nil_iff]
      rintro ⟨key, v⟩ hm
      obtain ⟨f, rfl, -⟩ := mem_fieldMembers_iff.1 hm
      simpa [isExtra] using f.key_mem_fieldNames
    have hextra : doc.extra.filter isExtra = doc.extra := by
      rw [List.filter_eq_self]
      intro m hm
      simpa [isExtra] using h m hm
    rw [List.filter_append, hfields, hextra, List.nil_append]

/-- What a document writes has no key twice, if the extra members have keys of their own and stand
in order. -/
theorem nodup_keys_written (h : doc.KeysApart) (hextra : doc.extra.Ascending) :
    ((doc.fieldMembers ++ doc.extra).map (·.1)).Nodup := by
  rw [List.map_append, List.nodup_append]
  refine ⟨nodup_keys_fieldMembers doc, (List.pairwise_map.2 hextra).imp ne_of_lt, ?_⟩
  intro key hfield key' hother heq
  obtain ⟨⟨_, v⟩, hm, rfl⟩ := List.mem_map.1 hfield
  obtain ⟨m, hm', rfl⟩ := List.mem_map.1 hother
  obtain ⟨f, rfl, -⟩ := mem_fieldMembers_iff.1 hm
  have hkey := f.key_mem_fieldNames
  rw [show f.key = m.1 from heq] at hkey
  exact h m hm' hkey

/-- Members of distinct keys tell a document also in ascending order, if its extra members stand in
that. -/
theorem Tells.sorted (h : Tells members doc) (hkeys : (members.map (·.1)).Nodup)
    (hextra : doc.extra.Ascending) : Tells members.sorted doc where
  mem_iff f v := (Members.sorted_perm hkeys).mem_iff.trans (h.mem_iff f v)
  filter_isExtra := by
    have hfiltered : Members.Ascending (members.sorted.filter isExtra) :=
      (Members.ascending_sorted members).sublist List.filter_sublist
    have hperm : (members.sorted.filter isExtra).Perm doc.extra := by
      rw [← h.filter_isExtra]
      exact (Members.sorted_perm hkeys).filter isExtra
    exact hfiltered.eq_of_perm hextra hperm

/-! ## Writing and reading -/

/-- A document that is read as it was from what it writes, with the members in the order in which
they are written, and in ascending order if the extra members stand in that. -/
structure IsReadBack (doc : Document) : Prop where
  written : ofJson doc.toJson = .ok doc
  ascending : doc.extra.Ascending →
    ofJson (.object (Members.sorted (doc.fieldMembers ++ doc.extra))) = .ok doc

theorem isReadBack_of_keysApart (h : doc.KeysApart) : IsReadBack doc where
  written := ofJson_of_tells (tells_written h)
  ascending hextra :=
    ofJson_of_tells ((tells_written h).sorted (nodup_keys_written h hextra) hextra)

/-- The extra members of a document that is read have other keys than the fields. -/
theorem keysApart_of_ofJson (h : ofJson v = .ok doc) : doc.KeysApart := by
  cases v with
  | object members =>
    intro m hm
    rw [extra_of_ofJson h] at hm
    simpa [isExtra] using (List.mem_filter.1 hm).2
  | _ => cases h

/-- **Writing and reading lose nothing and add nothing.** A document whose extra members have other
keys than the fields is read back as it was, whatever it has in its fields; every value that is
read as a document makes one of this kind, so what is written of it and read and written again
stays the same. -/
theorem roundTrip_ofJson :
    (∀ doc : Document, doc.KeysApart → IsReadBack doc) ∧
    (∀ v doc, ofJson v = .ok doc → doc.KeysApart ∧ IsReadBack doc) ∧
    ∀ v w, (ofJson v).map toJson = .ok w → (ofJson w).map toJson = .ok w := by
  refine ⟨fun doc h => isReadBack_of_keysApart h, fun v doc h => ?_, fun v w h => ?_⟩
  · have hapart := keysApart_of_ofJson h
    exact ⟨hapart, isReadBack_of_keysApart hapart⟩
  · obtain ⟨doc, hdoc, rfl⟩ := exists_of_map_eq_ok h
    rw [(isReadBack_of_keysApart (keysApart_of_ofJson hdoc)).written]
    rfl

/-- Prices in steps, with success criteria that are declared and empty, and an extra member that is
`null`. -/
def tariff : Document :=
  { named "PRC-tiered" "PRC" with
    status := .review
    dependsOn := ["MSN-core"]
    successCriteria := some []
    extra := [("note", .null), ("price_points", .array [.int 9, .int 29])] }

/-- The tariff is read back, and its value is written again as it was. -/
theorem roundTrip_ofJson_tariff : tariff.KeysApart ∧ tariff.extra.Ascending ∧
    ofJson (.object (Members.sorted (tariff.fieldMembers ++ tariff.extra))) = .ok tariff ∧
    ofJson tariff.toJson = .ok tariff ∧ (ofJson tariff.toJson).map toJson = .ok tariff.toJson := by
  have hapart : tariff.KeysApart := by
    show ∀ m ∈ tariff.extra, m.1 ∉ fieldNames
    decide
  have hextra : tariff.extra.Ascending := by
    show tariff.extra.Pairwise (·.1 < ·.1)
    decide
  obtain ⟨hback, hread, hagain⟩ := roundTrip_ofJson
  have hwritten := (hback tariff hapart).written
  refine ⟨hapart, hextra, (hread _ tariff hwritten).2.ascending hextra, hwritten, ?_⟩
  exact hagain tariff.toJson tariff.toJson (by rw [hwritten]; rfl)

end Dossier.Document
