import Dossier.Proofs.Json.Draft
import Dossier.Proofs.Json.Members
import Dossier.Rpc.Message

/-!
# The id of a request

A line is decoded as a request while it is read, and if that fails, the id of the response is
looked for in the value that the line is. By either way it is the member `id` of that value: of a
request that is accepted (`exists_id_of_read`) and of a line that is refused (`recoverId_of_read`).
A request that is accepted has no id only if the value has none, or `null` (`id_eq_none_iff`).
-/

namespace Dossier.Rpc

open Json

/-- The values that can tell responses apart: strings and numbers. -/
inductive IsId : Value → Prop
  | string (s : String) : IsId (.string s)
  | int (n : Int) : IsId (.int n)
  | float (x : Float) : IsId (.float x)

variable {v id : Value} {text : String}

/-- The id of a line that is refused is that of the value that the line is. -/
theorem recoverId_of_read (hread : Value.read text = .ok v) (hget : v.get? "id" = some id)
    (hid : IsId id) : recoverId text = id := by
  rw [recoverId, hread]
  dsimp only
  rw [hget]
  cases hid <;> rfl

/-- An id that is accepted is written as it was given. -/
theorem Id.toJson_of_ofJson {i : Id} (h : Id.ofJson v = .ok i) : i.toJson = v := by
  unfold Id.ofJson at h
  split at h
  · cases h
    rfl
  · split at h
    · cases h
      rfl
    · cases h
  · cases h

/-- An optional id that is accepted is the id that is given, or none in the place of `null`. -/
theorem map_toJson_of_option {id? : Option Id} (h : Decoder.option Id.ofJson v = .ok id?) :
    Value.ofOption (id?.map Id.toJson) = v := by
  unfold Decoder.option at h
  split at h
  case h_1 =>
    cases h
    rfl
  case h_2 =>
    obtain ⟨i, hi, rfl⟩ := exists_of_map_eq_ok h
    exact Id.toJson_of_ofJson hi

namespace Request

variable {r r' : Request} {key : String} {d : Draft} {known known' : List String}
  {members : List DraftMember} {done values : Members}

/-- Fields other than the id leave the id as it is. -/
theorem id_of_set (hkey : key ≠ "id") (h : r.set key v = .ok r') : r'.id = r.id := by
  unfold set at h
  split at h
  case h_2 => exact absurd rfl hkey
  case h_5 =>
    cases h
    rfl
  all_goals
    obtain ⟨_, -, h⟩ := exists_of_bind_eq_ok h
    cases h
    rfl

/-- Members other than the id leave the id as it is. -/
theorem id_of_setDraft (hkey : key ≠ "id") (h : r.setDraft key d = .ok r') : r'.id = r.id := by
  unfold setDraft at h
  split at h
  case h_1 => exact absurd rfl hkey
  case h_2 =>
    obtain ⟨_, -, h⟩ := exists_of_bind_eq_ok h
    exact id_of_set hkey h
  case h_3 => exact id_of_set hkey h
  case h_4 => cases h

/-- The id is decoded from the value of its member. -/
theorem decode_id_of_setDraft (hd : d.toValue (depthLimit - 1) = .ok v)
    (h : r.setDraft "id" d = .ok r') : Decoder.option Id.ofJson v = .ok r'.id := by
  obtain ⟨w, hw, h⟩ :=
    exists_of_bind_eq_ok (show (d.inner >>= fun v => r.set "id" v) = .ok r' from h)
  have hwv := (eq_ok_of_mapError_eq_ok hw).symm.trans hd
  cases hwv
  obtain ⟨id?, hid, h⟩ := exists_of_bind_eq_ok h
  cases h
  exact hid

/-- Members that are both set and read leave the id as the value of its member decodes, or `null`
without one. -/
theorem decode_id_of_setMembers
    (hset : shape.setMembers setDraft r known members = .ok (r', known'))
    (hread : toMembers (depthLimit - 1) done members = .ok values)
    (hdone : Decoder.option Id.ofJson (.ofOption (done.get? "id")) = .ok r.id) :
    Decoder.option Id.ofJson (.ofOption (values.get? "id")) = .ok r'.id := by
  induction members generalizing r known done with
  | nil =>
    cases hset
    cases hread
    exact hdone
  | cons member rest ih =>
    obtain ⟨key?, d⟩ := member
    obtain ⟨key, hkey, hread⟩ := exists_of_bind_eq_ok hread
    obtain ⟨w, hw, hread⟩ := exists_of_bind_eq_ok hread
    rw [Shape.setMembers, hkey] at hset
    change (if !shape.fields.contains key then _ else if known.contains key then _ else _) =
      _ at hset
    split at hset
    case isTrue hunknown =>
      -- a member that is passed over is not the id, which is a field
      have hne : key ≠ "id" := by
        rintro rfl
        exact absurd hunknown (by decide)
      obtain ⟨-, -, hset⟩ := exists_of_bind_eq_ok hset
      refine ih hset hread ?_
      rwa [Members.get?_put_of_ne hne.symm]
    case isFalse =>
      split at hset
      case isTrue => cases hset
      case isFalse =>
        obtain ⟨next, hnext, hset⟩ := exists_of_bind_eq_ok hset
        refine ih hset hread ?_
        by_cases hid : key = "id"
        · subst hid
          rw [Members.get?_put_self]
          exact decode_id_of_setDraft hw hnext
        · rw [Members.get?_put_of_ne (Ne.symm hid), id_of_setDraft hid hnext]
          exact hdone

/-- The id of a request that is accepted is what the member of the object decodes as that its text
is. -/
theorem decode_id_of_read (hr : read text = .ok r)
    (hread : Value.read text = .ok (.object values)) :
    Decoder.option Id.ofJson (.ofOption (values.get? "id")) = .ok r.id := by
  have hset := Shape.ofDraft_of_read hr
  obtain ⟨hvalue, -⟩ := Value.read_eq_ok_iff.1 hread
  cases hdraft : (Draft.read text).value with
  | object members stop =>
    rw [hdraft] at hset hvalue
    obtain ⟨⟨r', known⟩, hmembers, hset⟩ := exists_of_bind_eq_ok hset
    obtain ⟨values', hvalues, hvalue⟩ := exists_of_bind_eq_ok hvalue
    obtain ⟨-, -, hvalue⟩ := exists_of_bind_eq_ok hvalue
    cases hvalue
    obtain ⟨-, -, hset⟩ := exists_of_bind_eq_ok hset
    have hr : r' = r := by
      split at hset
      · cases hset
      · exact Except.ok.inj hset
    subst hr
    exact decode_id_of_setMembers hmembers hvalues rfl
  | array items stop =>
    -- an array is no object
    rw [hdraft] at hvalue
    obtain ⟨_, -, hvalue⟩ := exists_of_bind_eq_ok hvalue
    obtain ⟨-, -, hvalue⟩ := exists_of_bind_eq_ok hvalue
    cases hvalue
  | _ =>
    rw [hdraft] at hset
    cases hset

/-- A request has no id if the object that its text is has none, or `null`. -/
theorem id_eq_none_iff (hr : read text = .ok r) (hread : Value.read text = .ok (.object values)) :
    r.id = none ↔ values.get? "id" = none ∨ values.get? "id" = some .null := by
  have hgiven := map_toJson_of_option (decode_id_of_read hr hread)
  constructor
  · intro hid
    rw [hid] at hgiven
    cases hget : values.get? "id" with
    | none => exact .inl rfl
    | some id =>
      rw [hget] at hgiven
      exact .inr (congrArg some hgiven.symm)
  · intro hget
    have hnull : Value.ofOption (values.get? "id") = .null := by
      rcases hget with hget | hget <;> rw [hget] <;> rfl
    rw [hnull] at hgiven
    cases hid : r.id with
    | none => rfl
    | some i =>
      rw [hid] at hgiven
      cases i <;> cases hgiven

/-- The id of a request that is accepted is that of the value that its text is. -/
theorem exists_id_of_read (hr : read text = .ok r) (hread : Value.read text = .ok v)
    (hget : v.get? "id" = some id) (hid : IsId id) : ∃ i, r.id = some i ∧ i.toJson = id := by
  cases v with
  | object values =>
    have hgiven : Value.ofOption (r.id.map Id.toJson) = id := by
      rw [map_toJson_of_option (decode_id_of_read hr hread)]
      exact congrArg Value.ofOption hget
    cases hr : r.id with
    | none =>
      rw [hr] at hgiven
      subst hgiven
      cases hid
    | some i =>
      rw [hr] at hgiven
      exact ⟨i, rfl, hgiven⟩
  | _ => cases hget

end Request

end Dossier.Rpc
