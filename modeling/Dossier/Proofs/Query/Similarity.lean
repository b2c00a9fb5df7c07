import Dossier.Proofs.Document.RoundTrip
import Dossier.Query.Similarity

/-!
# Ranked documents as JSON

An item of a ranking is an object of the similarity and of the members of the document, side by
side. No field of a document is named like the similarity, but an extra member may be. So the names
of an item are distinct exactly if those of the document are and no extra member takes the name of
the similarity (`nodup_keys_cons_written`), and then it is read back as the similarity and the
document (`ofMembers?_cons`). Where an extra member takes that name, a reader lets the last of the
two members count, and the document that is read lacks the extra one
(`not_takesSimilarity_of_ofMembers?`). `isItem_of_mem_similar` says all that an item promises.
-/

namespace Dossier.Query

open Json

variable {r : Registry} {id : String} {limit : Nat} {s : Similar}

/-- The names of the members of an object, in their order. -/
def memberNames : Value → List String
  | .object members => members.map (·.1)
  | _ => []

/-- Whether an extra member of a document takes the name of the similarity. -/
def TakesSimilarity (doc : Document) : Prop := "similarity" ∈ doc.extra.map (·.1)

/-- The similarity and the document that members say. They are set one after another, so of two
with one name the last counts. -/
def Similar.ofMembers? (members : Members) : Option (Float × Document) :=
  match (Members.sorted members).get? "similarity",
    Document.ofJson (.object ((Members.sorted members).drop "similarity")) with
  | some (.float x), .ok doc => some (x, doc)
  | _, _ => none

/-- The similarity and the document that an item says. -/
def Similar.read? : Value → Option (Float × Document)
  | .object members => ofMembers? members
  | _ => none

/-- An item of the documents that are ranked by their similarity to the one with a given id. -/
structure IsItem (r : Registry) (id : String) (s : Similar) : Prop where
  /-- The similarity is that of the document to the first one with the id. -/
  scored : ∃ doc, r.documents.find? (·.id == id) = some doc ∧ s.document ∈ r.documents ∧
    s.document.id ≠ id ∧
    s.similarity = similarity r.taxonomy doc s.document
  /-- The members are the similarity and those of the document. -/
  members : ∃ members, s.document.toJson = .object members ∧
    s.toJson = .object (("similarity", .float s.similarity) :: members)
  /-- The names are distinct if those of the document are and none of them is that of the
  similarity. -/
  nodup_iff : (memberNames s.toJson).Nodup ↔ (memberNames s.document.toJson).Nodup ∧
    ¬TakesSimilarity s.document
  /-- Of a document whose extra members stand in order and have names of their own, the names are
  distinct, and the similarity and the document are read back, if no extra member takes the name of
  the similarity. -/
  readBack_iff : s.document.KeysApart → s.document.extra.Ascending →
    ((memberNames s.toJson).Nodup ↔ ¬TakesSimilarity s.document) ∧
    (Similar.read? s.toJson = some (s.similarity, s.document) ↔ ¬TakesSimilarity s.document)

/-! ## Names -/

section

variable {doc : Document} {members : Members} {key : String} {v : Value} {x : Float}

/-- A document has a member named like the similarity only among its extra ones. -/
theorem mem_keys_written_iff : "similarity" ∈ (doc.fieldMembers ++ doc.extra).map (·.1) ↔
    TakesSimilarity doc := by
  rw [List.map_append, List.mem_append, TakesSimilarity, or_iff_right]
  intro hmem
  obtain ⟨⟨key, v⟩, hm, hkey⟩ := List.mem_map.1 hmem
  obtain ⟨f, hf, -⟩ := Document.mem_fieldMembers_iff.1 hm
  have hfield : "similarity" ∈ Document.fieldNames := by
    rw [← hkey, ← hf]
    exact f.key_mem_fieldNames
  exact absurd hfield (by decide)

/-- With the similarity before them, the names of a document's members are distinct if they are
without it and none of them is its name. -/
theorem nodup_keys_cons_written :
    ((("similarity", v) :: (doc.fieldMembers ++ doc.extra)).map (·.1)).Nodup ↔
    ((doc.fieldMembers ++ doc.extra).map (·.1)).Nodup ∧ ¬TakesSimilarity doc := by
  rw [List.map_cons, List.nodup_cons, mem_keys_written_iff, and_comm]

/-! ## Reading back -/

/-- Members of distinct names in order, with one of them dropped, are the others in order. -/
theorem drop_sorted_cons (hnd : (((key, v) :: members).map (·.1)).Nodup) :
    (Members.sorted ((key, v) :: members)).drop key = Members.sorted members := by
  obtain ⟨hkey, hnd'⟩ := List.nodup_cons.1 hnd
  have hothers : Members.drop ((key, v) :: members) key = members := by
    rw [Members.drop, List.filter_cons_of_neg (by simp)]
    refine List.filter_eq_self.2 fun m hm => bne_iff_ne.2 ?_
    rintro rfl
    exact hkey (List.mem_map.2 ⟨m, hm, rfl⟩)
  have hperm : ((Members.sorted ((key, v) :: members)).drop key).Perm
      (Members.drop ((key, v) :: members) key) :=
    (Members.sorted_perm hnd).filter _
  rw [hothers] at hperm
  exact ((Members.ascending_sorted _).drop key).eq_of_perm (Members.ascending_sorted members)
    (hperm.trans (Members.sorted_perm hnd').symm)

/-- Members of distinct names are read as the similarity among them and the document that the
others tell. -/
theorem ofMembers?_cons (hnd : ((("similarity", .float x) :: members).map (·.1)).Nodup)
    (hdoc : Document.ofJson (.object (Members.sorted members)) = .ok doc) :
    Similar.ofMembers? (("similarity", .float x) :: members) = some (x, doc) := by
  have hget : (Members.sorted (("similarity", .float x) :: members)).get? "similarity" =
      some (.float x) :=
    (Members.ascending_sorted _).get?_of_mem ((Members.sorted_perm hnd).mem_iff.2 (.head _))
  rw [Similar.ofMembers?, hget, drop_sorted_cons hnd, hdoc]

/-- No document that is read has an extra member named like the similarity. -/
theorem not_takesSimilarity_of_ofMembers? (h : Similar.ofMembers? members = some (x, doc)) :
    ¬TakesSimilarity doc := by
  unfold Similar.ofMembers? at h
  split at h
  case h_1 read _ hread =>
    cases h
    intro htakes
    obtain ⟨m, hm, hkey⟩ := List.mem_map.1 htakes
    rw [Document.extra_of_ofJson hread] at hm
    have hne := (List.mem_filter.1 (List.mem_filter.1 hm).1).2
    exact bne_iff_ne.1 hne hkey
  case h_2 => cases h

end

/-! ## Rankings -/

/-- The names of an item are that of the similarity and those of the members of the document. -/
theorem memberNames_toJson (s : Similar) : memberNames s.toJson =
    (("similarity", Value.float s.similarity) :: (s.document.fieldMembers ++ s.document.extra)).map
      (·.1) := rfl

/-- An item is read from the similarity and the members of the document. -/
theorem read?_toJson (s : Similar) : Similar.read? s.toJson =
    Similar.ofMembers? (("similarity", .float s.similarity) ::
      (s.document.fieldMembers ++ s.document.extra)) := rfl

/-- What is ranked are the documents of other ids, each with its similarity to the first one with
the id. -/
theorem mem_rank_iff : s ∈ rank r id ↔ ∃ doc, r.documents.find? (·.id == id) = some doc ∧
    s.document ∈ r.documents ∧ s.document.id ≠ id ∧
    s.similarity = similarity r.taxonomy doc s.document := by
  unfold rank
  split
  case h_1 hnone => simp [hnone]
  case h_2 doc hdoc =>
    rw [List.mem_mergeSort, List.mem_map, hdoc]
    simp only [List.mem_filter, bne_iff_ne]
    constructor
    · rintro ⟨other, ⟨hother, hne⟩, rfl⟩
      exact ⟨doc, rfl, hother, hne, rfl⟩
    · rintro ⟨_, hsame, hother, hne, hscore⟩
      cases hsame
      exact ⟨s.document, ⟨hother, hne⟩, by rw [← hscore]⟩

/-- No more documents are ranked than there are. -/
theorem length_rank_le (r : Registry) (id : String) : (rank r id).length ≤ r.documents.length := by
  unfold rank
  split
  case h_1 => exact Nat.zero_le _
  case h_2 =>
    rw [List.length_mergeSort, List.length_map]
    exact List.length_filter_le _ _

/-- **An item says its similarity and its document, unless an extra member takes the name of the
similarity.** In every registry, each item that is ranked for an id is an object of the similarity
computed and of the members of the document. For a document as it is read, whose extra members
stand in order and have other names than the fields, the names of the item are distinct, and the
similarity and the document are read back from it, exactly if no extra member is named like the
similarity. -/
theorem isItem_of_mem_similar (h : s ∈ similar r id limit) : IsItem r id s where
  scored := mem_rank_iff.1 (List.mem_of_mem_take h)
  members := ⟨_, rfl, rfl⟩
  nodup_iff := by
    rw [memberNames_toJson, nodup_keys_cons_written]
    rfl
  readBack_iff hapart hextra := by
    have hnd := Document.nodup_keys_written hapart hextra
    have hdoc := (Document.isReadBack_of_keysApart hapart).ascending hextra
    rw [memberNames_toJson, nodup_keys_cons_written, and_iff_right hnd, read?_toJson]
    refine ⟨Iff.rfl, not_takesSimilarity_of_ofMembers?, fun hfree => ?_⟩
    exact ofMembers?_cons (nodup_keys_cons_written.2 ⟨hnd, hfree⟩) hdoc

/-- A vision with extra members. -/
def vision (extra : Members) : Document := { Document.named "VSN-2030" "VSN" with extra }

/-- A mission and a vision. -/
def foundation (extra : Members) : Registry where
  collection := .ofList [Document.named "MSN-core" "MSN", vision extra]
  taxonomy := .canonical

/-- The vision is ranked for the mission. -/
theorem exists_mem_similar_foundation (extra : Members) :
    ∃ s ∈ similar (foundation extra) "MSN-core" 5, s.document = vision extra := by
  let s : Similar :=
    ⟨similarity .canonical (Document.named "MSN-core" "MSN") (vision extra), vision extra⟩
  have hother : "VSN-2030" ≠ "MSN-core" := by decide
  have hrank : s ∈ rank (foundation extra) "MSN-core" :=
    mem_rank_iff.2 ⟨Document.named "MSN-core" "MSN", rfl, .tail _ (.head _), hother, rfl⟩
  have hshort : (foundation extra).documents.length ≤ 5 := Nat.le_of_ble_eq_true rfl
  have hall : similar (foundation extra) "MSN-core" 5 = rank (foundation extra) "MSN-core" :=
    List.take_of_length_le ((length_rank_le _ _).trans hshort)
  exact ⟨s, hall ▸ hrank, rfl⟩

/-- A vision with an extra member of another name is read back, with its similarity. -/
theorem isItem_of_mem_similar_horizon :
    ∃ s ∈ similar (foundation [("horizon", .int 2030)]) "MSN-core" 5,
    s.document.extra = [("horizon", .int 2030)] ∧ (memberNames s.toJson).Nodup ∧
      Similar.read? s.toJson = some (s.similarity, s.document) := by
  obtain ⟨s, hs, hdoc⟩ := exists_mem_similar_foundation [("horizon", .int 2030)]
  have hapart : s.document.KeysApart := by
    rw [hdoc]
    show ∀ m ∈ [("horizon", Value.int 2030)], m.1 ∉ Document.fieldNames
    decide
  have hextra : s.document.extra.Ascending := by
    rw [hdoc]
    exact List.pairwise_singleton ..
  have hfree : ¬TakesSimilarity s.document := by
    rw [hdoc]
    show "similarity" ∉ [("horizon", Value.int 2030)].map (·.1)
    decide
  obtain ⟨hnames, hread⟩ := (isItem_of_mem_similar hs).readBack_iff hapart hextra
  exact ⟨s, hs, by rw [hdoc]; rfl, hnames.2 hfree, hread.2 hfree⟩

/-- A vision with an extra member named like the similarity has two members of that name in its
item, and it is not read back. -/
theorem not_nodup_names_rated :
    ∃ s ∈ similar (foundation [("similarity", .string "none")]) "MSN-core" 5,
    (memberNames s.toJson).count "similarity" = 2 ∧ ¬(memberNames s.toJson).Nodup ∧
      Similar.read? s.toJson ≠ some (s.similarity, s.document) := by
  obtain ⟨s, hs, hdoc⟩ := exists_mem_similar_foundation [("similarity", .string "none")]
  have hcount : (memberNames s.toJson).count "similarity" = 2 := by
    rw [memberNames_toJson, hdoc, List.map_cons, List.count_cons_self]
    decide
  have htakes : TakesSimilarity s.document := by
    rw [hdoc]
    exact .head _
  refine ⟨s, hs, hcount, fun hnd => ?_, fun hread => ?_⟩
  · have hle := List.nodup_iff_count_le_one.1 hnd "similarity"
    rw [hcount] at hle
    exact absurd hle (by decide)
  · rw [read?_toJson] at hread
    exact not_takesSimilarity_of_ofMembers? hread htakes

end Dossier.Query
