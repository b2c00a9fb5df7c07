import Dossier.Proofs.Json.Decoder
import Dossier.Proofs.Json.Order
import Dossier.Rpc.Server

/-!
# The arguments of a call

Arguments are the members of an object. They are set one after another, each by the setter of its
key, so what a field holds in the end is what the member with its key says
(`Fills.of_setArguments`), and they are all set if the setters accept them
(`Accepts.exists_setArguments`).
-/

namespace Dossier.Rpc

open Json

variable {v : Value} {members : Members}

namespace Call

/-! ## Setting arguments -/

variable {a a' b : Arguments} {setters : List (String × Setter)} {key : String} {α : Type}
  {field : Arguments → α} {Is : Value → α → Prop}

theorem setId_eq_ok_iff :
    setId a v = .ok a' ↔ ∃ id, IsText v id ∧ { a with id := some id } = a' := by
  show (Decoder.string v >>= fun id => pure { a with id := some id }) = .ok a' ↔ _
  simp only [bind_pure_eq_ok_iff, Decoder.string_eq_ok_iff]

theorem setOptionalId_eq_ok_iff :
    setOptionalId a v = .ok a' ↔ ∃ id, OrNull IsText v id ∧ { a with id } = a' := by
  show (Decoder.option Decoder.string v >>= fun id => pure { a with id }) = .ok a' ↔ _
  simp only [bind_pure_eq_ok_iff, Decoder.option_string_eq_ok_iff]

theorem setIncludeContent_eq_ok_iff : setIncludeContent a v = .ok a' ↔
    ∃ includeContent, IsTruth v includeContent ∧ { a with includeContent } = a' := by
  show (Decoder.boolean v >>= fun includeContent => pure { a with includeContent }) = .ok a' ↔ _
  simp only [bind_pure_eq_ok_iff, Decoder.boolean_eq_ok_iff]

theorem setLimit_eq_ok_iff :
    setLimit a v = .ok a' ↔ ∃ limit, OrNull IsSize v limit ∧ { a with limit } = a' := by
  show (Decoder.option Decoder.size v >>= fun limit => pure { a with limit }) = .ok a' ↔ _
  simp only [bind_pure_eq_ok_iff, Decoder.option_size_eq_ok_iff]

/-- Members are set if the setters of their keys accept them. -/
theorem exists_setArguments
    (h : ∀ m ∈ members, ∀ set, setters.lookup m.1 = some set → ∀ a, ∃ a', set a m.2 = .ok a')
    (a : Arguments) : ∃ b, setArguments setters a members = .ok b := by
  induction members generalizing a with
  | nil => exact ⟨a, rfl⟩
  | cons first rest ih =>
    have hrest (a : Arguments) := ih (fun m hm => h m (.tail _ hm)) a
    unfold setArguments
    cases hset : setters.lookup first.1 with
    | none => exact hrest a
    | some set =>
      obtain ⟨a', ha'⟩ := h first (.head _) set hset a
      dsimp only
      rw [ha']
      exact hrest a'

/-- A setter that is looked up is one of those of its key. -/
theorem mem_of_lookup {set : Setter} (h : setters.lookup key = some set) :
    (key, set) ∈ setters := by
  obtain ⟨before, after, rfl, -⟩ := List.lookup_eq_some_iff.1 h
  exact List.mem_append_right _ (.head _)

/-- Setters accept what is found by their keys, whatever has been set before. -/
def Accepts (setters : List (String × Setter)) (members : Members) : Prop :=
  ∀ e ∈ setters, ∀ v, members.get? e.1 = some v → ∀ a, ∃ a', e.2 a v = .ok a'

/-- Members that are set are set one after another: each by the setter of its key, if that has
one. -/
theorem exists_of_setArguments_cons {first : String × Value} {rest : Members}
    (h : setArguments setters a (first :: rest) = .ok b) :
    ∃ next, (∀ set, setters.lookup first.1 = some set → set a first.2 = .ok next) ∧
      (setters.lookup first.1 = none → next = a) ∧ setArguments setters next rest = .ok b := by
  rw [setArguments] at h
  cases hlookup : setters.lookup first.1 with
  | none =>
    rw [hlookup] at h
    exact ⟨a, nofun, fun _ => rfl, h⟩
  | some set =>
    rw [hlookup] at h
    obtain ⟨next, hnext, hrest⟩ := exists_of_bind_eq_ok h
    exact ⟨next, fun _ hset => Option.some.inj hset ▸ hnext, nofun, hrest⟩

/-- A setter leaves a field as it is. -/
def Keeps (set : Setter) (field : Arguments → α) : Prop :=
  ∀ a a' v, set a v = .ok a' → field a' = field a

/-- The setters of a tool fill a field from the members of a key only. -/
structure Fills (setters : List (String × Setter)) (key : String) (field : Arguments → α)
    (Is : Value → α → Prop) : Prop where
  isSome : (setters.lookup key).isSome = true
  sets : ∀ {set a a' v}, (key, set) ∈ setters → set a v = .ok a' → Is v (field a')
  keeps : ∀ {k set}, k ≠ key → (k, set) ∈ setters → Keeps set field

/-- A field that is filled has the value of the member with its key, or keeps its own without
one. -/
theorem Fills.of_setArguments (hfills : Fills setters key field Is) (hmembers : members.Ascending)
    (hset : setArguments setters a members = .ok b) :
    (∀ v, members.get? key = some v → Is v (field b)) ∧
    (members.get? key = none → field b = field a) := by
  induction members generalizing a with
  | nil =>
    cases hset
    exact ⟨nofun, fun _ => rfl⟩
  | cons first rest ih =>
    obtain ⟨next, hnext, hother, hrest⟩ := exists_of_setArguments_cons hset
    obtain ⟨hgiven, hnone⟩ := ih (List.pairwise_cons.1 hmembers).2 hrest
    rw [Members.get?_cons]
    by_cases hkey : key = first.1
    · rw [if_pos hkey]
      refine ⟨?_, nofun⟩
      rintro _ ⟨⟩
      rw [hnone (hkey ▸ hmembers.get?_rest_eq_none)]
      obtain ⟨set, hlookup⟩ := Option.isSome_iff_exists.1 hfills.isSome
      exact hfills.sets (mem_of_lookup hlookup) (hnext set (hkey ▸ hlookup))
    · rw [if_neg hkey]
      have hkeep : field next = field a := by
        cases hlookup : setters.lookup first.1 with
        | none => rw [hother hlookup]
        | some set =>
          exact hfills.keeps (Ne.symm hkey) (mem_of_lookup hlookup) _ _ _ (hnext set hlookup)
      rw [← hkeep]
      exact ⟨hgiven, hnone⟩

/-- The first setter fills its field, if the others leave the field alone. -/
theorem Fills.head {set : Setter} {rest : List (String × Setter)}
    (hset : ∀ {a a' v}, set a v = .ok a' → Is v (field a'))
    (hrest : ∀ e ∈ rest, e.1 ≠ key ∧ Keeps e.2 field) :
    Fills ((key, set) :: rest) key field Is where
  isSome := by rw [List.lookup_cons_self, Option.isSome_some]
  sets hmem := by
    rcases List.mem_cons.1 hmem with heq | hmem
    · cases heq
      exact hset
    · exact absurd rfl (hrest _ hmem).1
  keeps hne hmem := by
    rcases List.mem_cons.1 hmem with heq | hmem
    · cases heq
      exact absurd rfl hne
    · exact (hrest _ hmem).2

/-- A setter that stands alone fills its field. -/
theorem Fills.only {set : Setter} (hset : ∀ {a a' v}, set a v = .ok a' → Is v (field a')) :
    Fills [(key, set)] key field Is :=
  .head hset (List.forall_mem_nil _)

/-- A later setter fills its field, if the first leaves the field alone. -/
theorem Fills.tail {first : String × Setter} (hne : key ≠ first.1) (hkeeps : Keeps first.2 field)
    (h : Fills setters key field Is) : Fills (first :: setters) key field Is where
  isSome := by
    rw [List.lookup_cons, beq_eq_false_iff_ne.2 hne]
    exact h.isSome
  sets hmem := by
    rcases List.mem_cons.1 hmem with rfl | hmem
    · exact absurd rfl hne
    · exact h.sets hmem
  keeps hother hmem := by
    rcases List.mem_cons.1 hmem with rfl | hmem
    · exact hkeeps
    · exact h.keeps hother hmem

/-- An id that must be given is some text. -/
def IsRequired (v : Value) (id : Option String) : Prop := ∃ s, IsText v s ∧ id = some s

theorem isTruth_of_setIncludeContent (h : setIncludeContent a v = .ok a') :
    IsTruth v a'.includeContent := by
  obtain ⟨_, hv, rfl⟩ := setIncludeContent_eq_ok_iff.1 h
  exact hv

theorem orNull_of_setLimit (h : setLimit a v = .ok a') : OrNull IsSize v a'.limit := by
  obtain ⟨_, hv, rfl⟩ := setLimit_eq_ok_iff.1 h
  exact hv

theorem orNull_of_setOptionalId (h : setOptionalId a v = .ok a') : OrNull IsText v a'.id := by
  obtain ⟨_, hv, rfl⟩ := setOptionalId_eq_ok_iff.1 h
  exact hv

theorem isRequired_of_setId (h : setId a v = .ok a') : IsRequired v a'.id := by
  obtain ⟨s, hs, rfl⟩ := setId_eq_ok_iff.1 h
  exact ⟨s, hs, rfl⟩

theorem keeps_setId_includeContent : Keeps setId (·.includeContent) := by
  intro a a' v h
  obtain ⟨_, -, rfl⟩ := setId_eq_ok_iff.1 h
  rfl

theorem keeps_setId_limit : Keeps setId (·.limit) := by
  intro a a' v h
  obtain ⟨_, -, rfl⟩ := setId_eq_ok_iff.1 h
  rfl

theorem keeps_setIncludeContent_id : Keeps setIncludeContent (·.id) := by
  intro a a' v h
  obtain ⟨_, -, rfl⟩ := setIncludeContent_eq_ok_iff.1 h
  rfl

theorem keeps_setLimit_id : Keeps setLimit (·.id) := by
  intro a a' v h
  obtain ⟨_, -, rfl⟩ := setLimit_eq_ok_iff.1 h
  rfl

/-- An id that must be given is filled first. -/
theorem fills_id (other : String × Setter) (hkeeps : Keeps other.2 (·.id)) (hne : other.1 ≠ "id") :
    Fills [("id", setId), other] "id" (·.id) IsRequired :=
  .head isRequired_of_setId (List.forall_mem_singleton.2 ⟨hne, hkeeps⟩)

/-- An id that may be `null` is filled. -/
theorem fills_optionalId : Fills [("id", setOptionalId)] "id" (·.id) (OrNull IsText) :=
  .only orNull_of_setOptionalId

/-- The flag for the content is filled after the id. -/
theorem fills_includeContent : Fills [("id", setId), ("includeContent", setIncludeContent)]
    "includeContent" (·.includeContent) IsTruth :=
  .tail (by decide) keeps_setId_includeContent (.only isTruth_of_setIncludeContent)

/-- The limit is filled after the id. -/
theorem fills_limit :
    Fills [("id", setId), ("limit", setLimit)] "limit" (·.limit) (OrNull IsSize) :=
  .tail (by decide) keeps_setId_limit (.only orNull_of_setLimit)

/-! ## Decoding -/

/-- No field is missing if each one that is required is there. -/
theorem requireFields_eq_ok_iff {required : List String} :
    requireFields required members = .ok () ↔
    ∀ key ∈ required, (members.get? key).isSome = true := by
  unfold requireFields
  cases hmissing : required.find? fun name => (members.get? name).isNone with
  | none => simpa [Option.isSome_iff_ne_none] using hmissing
  | some key =>
    refine iff_of_false nofun fun h => ?_
    have hsome := h key (List.mem_of_find?_eq_some hmissing)
    have hnone := List.find?_some hmissing
    simp [Option.isNone_iff_eq_none.1 hnone] at hsome

/-- Arguments are decoded from an object that has what is required. -/
theorem decodeArguments_eq_ok_iff {name : String} {required : List String} :
    decodeArguments name setters required v = .ok a ↔ ∃ members : Members, v = .object members ∧
      setArguments setters {} members = .ok a ∧ ∀ key ∈ required, (members.get? key).isSome =
        true := by
  constructor
  · intro h
    unfold decodeArguments at h
    split at h
    case h_1 members =>
      obtain ⟨_, hset, h⟩ := exists_of_bind_eq_ok h
      obtain ⟨_, hrequired, h⟩ := exists_of_bind_eq_ok h
      cases h
      exact ⟨members, rfl, hset, requireFields_eq_ok_iff.1 hrequired⟩
    case h_2 => cases h
  · rintro ⟨members, rfl, hset, hrequired⟩
    show (setArguments setters {} members >>= fun a => requireFields required members >>=
      fun _ => pure a) = .ok a
    rw [hset]
    show (requireFields required members >>= fun _ => pure a) = .ok a
    rw [requireFields_eq_ok_iff.2 hrequired]
    rfl

/-- A tool without arguments is called with any object. -/
theorem decodeNone_eq_ok_iff {name : String} :
    decodeNone name v = .ok () ↔ ∃ members : Members, v = .object members := by
  constructor
  · intro h
    obtain ⟨_, h, -⟩ := exists_of_bind_eq_ok h
    obtain ⟨members, hv, -⟩ := decodeArguments_eq_ok_iff.1 h
    exact ⟨members, hv⟩
  · rintro ⟨members, rfl⟩
    have hset : ∃ a, setArguments [] {} members = .ok a :=
      exists_setArguments (fun _ _ _ h => by cases h) {}
    obtain ⟨a, ha⟩ := hset
    have hdecode : decodeArguments name [] [] (.object members) = .ok a :=
      decodeArguments_eq_ok_iff.2 ⟨members, rfl, ha, List.forall_mem_nil _⟩
    rw [decodeNone, hdecode]
    rfl

section

variable (hmembers : members.Ascending)

include hmembers

/-- An id that must be given is the text of the member. -/
theorem get?_id_of_setArguments (hfills : Fills setters "id" (·.id) IsRequired)
    (hset : setArguments setters a members = .ok b) (hsome : (members.get? "id").isSome = true) :
    members.get? "id" = some (.string (b.id.getD "")) := by
  obtain ⟨v, hv⟩ := Option.isSome_iff_exists.1 hsome
  obtain ⟨s, hs, hid⟩ := (hfills.of_setArguments hmembers hset).1 v hv
  rw [hv, hs, hid, Option.getD_some]

/-- It is the text that is given. -/
theorem id_of_setArguments {id : String} (hfills : Fills setters "id" (·.id) IsRequired)
    (hset : setArguments setters a members = .ok b) (hid : members.get? "id" = some (.string id)) :
    b.id.getD "" = id := by
  have hget := get?_id_of_setArguments hmembers hfills hset (by rw [hid]; rfl)
  exact Value.string.inj (Option.some.inj (hget.symm.trans hid))

/-- A field that may be left out is what the member says, if there is one. -/
theorem isGiven_of_setArguments (hfills : Fills setters key field Is)
    (hset : setArguments setters {} members = .ok b) :
    IsGiven Is (field {}) (members.get? key) (field b) := by
  obtain ⟨hgiven, hnone⟩ := hfills.of_setArguments hmembers hset
  cases hget : members.get? key with
  | none =>
    rw [hnone hget]
    exact .absent
  | some v => exact .given (hgiven v hget)

/-- Members are set if the setters accept what is found by their keys. -/
theorem Accepts.exists_setArguments (h : Accepts setters members) :
    ∃ b, setArguments setters {} members = .ok b := by
  refine Call.exists_setArguments (fun m hm set hset => ?_) {}
  exact h _ (mem_of_lookup hset) _ (hmembers.get?_of_mem hm)

end

end Call

end Dossier.Rpc
