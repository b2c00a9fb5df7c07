import Dossier.Proofs.Json.Order
import Dossier.Proofs.Json.Syntax

/-!
# Which texts are records

A record is read while its text is, so what is no JSON and what is no record are refused alike.
Here the two are told apart: a record is read from a text if and only if the text is JSON and its
draft has the form of the record (`exists_read_iff`).
-/

namespace Dossier.Json.Shape

variable {α : Type} {shape : Shape α} {set : DraftSetter α}
  {Fits : String → Draft → Prop} {a b : α}
  {known known' : List String} {members : List DraftMember} {text : String}

/-- A setter accepts what fits a field, whatever the record is so far. What fits can be passed
over. -/
structure Accepts (shape : Shape α) (set : DraftSetter α) (Fits : String → Draft → Prop) :
    Prop where
  exists_set_iff : ∀ (a : α) {key : String} {d : Draft}, key ∈ shape.fields → d.IsPlain →
    ((∃ b, set a key d = .ok b) ↔ Fits key d)
  skip : ∀ {key : String} {d : Draft}, Fits key d → d.skip = .ok ()

/-- A member has a key that can be read, and if that is a field, its value fits. -/
def FitsMember (shape : Shape α) (Fits : String → Draft → Prop) (m : DraftMember) : Prop :=
  ∃ key, m.1 = .ok key ∧ (key ∈ shape.fields → Fits key m.2)

/-- The keys of members that are fields, in their order. -/
def fieldKeys (shape : Shape α) (members : List DraftMember) : List String :=
  members.filterMap fun m => m.1.toOption.filter shape.fields.contains

/-- The form of a record: an object in which no field comes twice and no required one is missing,
or an array of the first fields. -/
inductive IsRecord (shape : Shape α) (Fits : String → Draft → Prop) : Draft → Prop
  | object {members : List DraftMember} {stop : Option Stop}
    (fits : ∀ m ∈ members, shape.FitsMember Fits m)
    (distinct : (shape.fieldKeys members).Nodup)
      (complete : ∀ key ∈ shape.required, key ∈ shape.fieldKeys members) :
    IsRecord shape Fits (.object members stop)
  | array {items : List Draft} {stop : Option Stop}
    (fits : ∀ m ∈ shape.fields.zip items, Fits m.1 m.2)
    (atLeast : shape.atLeast ≤ items.length) (atMost : items.length ≤ shape.fields.length) :
    IsRecord shape Fits (.array items stop)

/-- A field is set from a draft if the draft has a value from which it is set. -/
theorem exists_setInner_iff {key : String} {d : Draft} : (∃ b, shape.setInner a key d = .ok b) ↔
    ∃ v, d.toValue (depthLimit - 1) = .ok v ∧ ∃ b, shape.set a key v = .ok b := by
  unfold setInner Draft.inner
  cases d.toValue (depthLimit - 1) with
  | error e => exact iff_of_false (fun ⟨_, h⟩ => nomatch h) (fun ⟨_, h, _⟩ => nomatch h)
  | ok v =>
    constructor
    · rintro ⟨b, h⟩
      exact ⟨v, rfl, b, h⟩
    · rintro ⟨_, ⟨⟩, b, h⟩
      exact ⟨b, h⟩

/-! ## Members -/

/-- The keys of a member and of those after it. -/
theorem fieldKeys_cons (key : String) (d : Draft) (rest : List DraftMember) :
    shape.fieldKeys ((.ok key, d) :: rest) =
      if key ∈ shape.fields then key :: shape.fieldKeys rest else shape.fieldKeys rest := by
  unfold fieldKeys
  rw [List.filterMap_cons]
  by_cases hkey : key ∈ shape.fields <;> simp [hkey, Except.toOption, Option.filter]

/-- A member whose key can be read is passed over or set. -/
theorem setMembers_cons_ok (a : α) (known : List String) (key : String) (d : Draft)
    (rest : List DraftMember) :
    shape.setMembers set a known ((.ok key, d) :: rest) =
      if !shape.fields.contains key then do
        d.skip.mapError .broken
        shape.setMembers set a known rest
      else if known.contains key then throw (.duplicateField key)
      else (do shape.setMembers set (← set a key d) (key :: known) rest) :=
  rfl

/-- Members that are set fit and can be passed over, and no field of theirs was set before. -/
theorem fits_of_setMembers (haccepts : shape.Accepts set Fits)
    (hplain : ∀ m ∈ members, m.2.IsPlain)
    (h : shape.setMembers set a known members = .ok (b, known')) :
    (∀ m ∈ members, shape.FitsMember Fits m) ∧ skipMembers members = .ok () ∧
      known' = (shape.fieldKeys members).reverse ++ known ∧ (known.Nodup → known'.Nodup) := by
  induction members generalizing a known with
  | nil =>
    cases h
    exact ⟨List.forall_mem_nil _, rfl, rfl, id⟩
  | cons member rest ih =>
    obtain ⟨key?, d⟩ := member
    obtain ⟨hd, hrest⟩ := List.forall_mem_cons.1 hplain
    obtain ⟨key, hkey⟩ : ∃ key, key? = .ok key := by
      obtain ⟨key, hkey, -⟩ := exists_of_bind_eq_ok h
      exact ⟨key, eq_ok_of_mapError_eq_ok hkey⟩
    subst hkey
    rw [setMembers_cons_ok] at h
    split at h
    case isTrue hunknown =>
      obtain ⟨_, hskip, h⟩ := exists_of_bind_eq_ok h
      obtain ⟨hfits, hskips, hknown, hnodup⟩ := ih hrest h
      have hkey : key ∉ shape.fields := by simpa using hunknown
      refine ⟨List.forall_mem_cons.2 ⟨⟨key, rfl, fun hmem => absurd hmem hkey⟩, hfits⟩, ?_,
        ?_, hnodup⟩
      · rw [skipMembers, eq_ok_of_mapError_eq_ok hskip]
        exact hskips
      · rw [fieldKeys_cons, if_neg hkey, hknown]
    case isFalse hfield =>
      have hkey : key ∈ shape.fields := by simpa using hfield
      split at h
      case isTrue => cases h
      case isFalse hnew =>
        obtain ⟨next, hnext, h⟩ := exists_of_bind_eq_ok h
        obtain ⟨hfits, hskips, hknown, hnodup⟩ := ih hrest h
        have hfit : Fits key d := (haccepts.exists_set_iff a hkey hd).1 ⟨next, hnext⟩
        refine ⟨List.forall_mem_cons.2 ⟨⟨key, rfl, fun _ => hfit⟩, hfits⟩, ?_, ?_,
          fun hnd => hnodup ?_⟩
        · rw [skipMembers, haccepts.skip hfit]
          exact hskips
        · rw [fieldKeys_cons, if_pos hkey, hknown]
          simp
        · exact List.nodup_cons.2 ⟨by simpa using hnew, hnd⟩

/-- Members that fit are set, if no field of theirs comes twice. -/
theorem exists_setMembers (haccepts : shape.Accepts set Fits) (hplain : ∀ m ∈ members, m.2.IsPlain)
    (hfits : ∀ m ∈ members, shape.FitsMember Fits m) (hskips : skipMembers members = .ok ())
    (hnodup : ((shape.fieldKeys members).reverse ++ known).Nodup) (a : α) :
    ∃ b known', shape.setMembers set a known members = .ok (b, known') := by
  induction members generalizing a known with
  | nil => exact ⟨a, known, rfl⟩
  | cons member rest ih =>
    obtain ⟨key?, d⟩ := member
    obtain ⟨hd, hrest⟩ := List.forall_mem_cons.1 hplain
    obtain ⟨⟨key, hkey, hfit⟩, hrestFits⟩ := List.forall_mem_cons.1 hfits
    obtain ⟨_, hskip, hrestSkips⟩ := exists_of_bind_eq_ok hskips
    obtain rfl : key? = .ok key := hkey
    rw [fieldKeys_cons] at hnodup
    rw [setMembers_cons_ok]
    by_cases hfield : key ∈ shape.fields
    · obtain ⟨next, hnext⟩ := (haccepts.exists_set_iff a hfield hd).2 (hfit hfield)
      rw [if_pos hfield, List.reverse_cons, List.append_assoc, List.singleton_append] at hnodup
      have hnew : key ∉ known := (List.nodup_cons.1 (List.nodup_append.1 hnodup).2.1).1
      rw [if_neg (by simpa using hfield), if_neg (by simpa using hnew), hnext]
      exact ih hrest hrestFits hrestSkips hnodup next
    · rw [if_neg hfield] at hnodup
      rw [if_pos (by simpa using hfield), hskip]
      exact ih hrest hrestFits hrestSkips hnodup a

/-! ## Fields in order -/

/-- Items that can each be passed over can all be. -/
theorem skipItems_eq_ok {items : List Draft} (h : ∀ d ∈ items, d.skip = .ok ()) :
    skipItems items = .ok () := by
  induction items with
  | nil => rfl
  | cons d rest ih =>
    obtain ⟨hd, hrest⟩ := List.forall_mem_cons.1 h
    rw [skipItems, hd]
    exact ih hrest

/-- Fields are set one after another if each fits. -/
theorem exists_setItems_iff (haccepts : shape.Accepts set Fits) {items : List (String × Draft)}
    (hfields : ∀ m ∈ items, m.1 ∈ shape.fields) (hplain : ∀ m ∈ items, m.2.IsPlain) :
    (∃ b, setItems set a items = .ok b) ↔ ∀ m ∈ items, Fits m.1 m.2 := by
  induction items generalizing a with
  | nil => exact iff_of_true ⟨a, rfl⟩ (List.forall_mem_nil _)
  | cons item rest ih =>
    obtain ⟨hfield, hfields⟩ := List.forall_mem_cons.1 hfields
    obtain ⟨hd, hrest⟩ := List.forall_mem_cons.1 hplain
    rw [List.forall_mem_cons, ← haccepts.exists_set_iff a hfield hd]
    constructor
    · rintro ⟨b, h⟩
      obtain ⟨next, hnext, h⟩ := exists_of_bind_eq_ok h
      exact ⟨⟨next, hnext⟩, (ih hfields hrest).1 ⟨b, h⟩⟩
    · rintro ⟨⟨next, hnext⟩, hfits⟩
      obtain ⟨b, h⟩ := (ih (a := next) hfields hrest).2 hfits
      exact ⟨b, by rw [← Prod.eta item, setItems, hnext]; exact h⟩

/-- An array ends well if it has enough items, not too many, and no fault at its end. -/
theorem checkEnd_eq_ok_iff {items : List Draft} {stop : Option Stop} :
    shape.checkEnd items stop = .ok () ↔
    shape.atLeast ≤ items.length ∧ items.length ≤ shape.fields.length ∧ stop = none := by
  unfold checkEnd
  split
  case isTrue hshort =>
    refine iff_of_false ?_ (by omega)
    split <;> nofun
  case isFalse hshort =>
    split
    case isTrue hless =>
      cases stop with
      | none => exact iff_of_true rfl ⟨by omega, by omega, rfl⟩
      | some s => exact iff_of_false nofun (fun h => nomatch h.2.2)
    case isFalse hless =>
      split
      case isTrue hmore => exact iff_of_false nofun (by omega)
      case isFalse hmore =>
        split
        case h_1 => exact iff_of_true rfl ⟨by omega, by omega, rfl⟩
        case h_2 s =>
          refine iff_of_false ?_ (fun h => nomatch h.2.2)
          split <;> nofun

/-! ## Records -/

section

variable (haccepts : shape.Accepts set Fits)

include haccepts

/-- An object is a record if it can be passed over and has the form of one. -/
theorem exists_ofDraft_object_iff (hplain : ∀ m ∈ members, m.2.IsPlain) (stop : Option Stop)
    (start : α) :
    (∃ a, shape.ofDraft set start (.object members stop) = .ok a) ↔
      (Draft.object members stop).skip = .ok () ∧ shape.IsRecord Fits (.object members stop) := by
  constructor
  · rintro ⟨a, h⟩
    obtain ⟨⟨b, known⟩, hset, h⟩ := exists_of_bind_eq_ok h
    obtain ⟨_, hclosing, hrequired⟩ := exists_of_bind_eq_ok h
    obtain rfl := eq_none_of_closing (eq_ok_of_mapError_eq_ok hclosing)
    obtain ⟨hfits, hskips, hknown, hnodup⟩ := fits_of_setMembers haccepts hplain hset
    rw [List.append_nil] at hknown
    subst hknown
    refine ⟨congrArg (· >>= fun _ => (.ok () : Except SyntaxError Unit)) hskips,
      .object hfits ?_ ?_⟩
    · exact (List.reverse_perm _).nodup_iff.1 (hnodup List.nodup_nil)
    · split at hrequired
      case h_1 => cases hrequired
      case h_2 hnone => simpa using hnone
  · rintro ⟨hskip, hrecord⟩
    obtain ⟨hfits, hdistinct, hcomplete⟩ := hrecord
    obtain ⟨_, hskips, hclosing⟩ := exists_of_bind_eq_ok hskip
    obtain rfl := eq_none_of_skipClosing hclosing
    have hnodup : ((shape.fieldKeys members).reverse ++ []).Nodup := by
      rw [List.append_nil]
      exact (List.reverse_perm _).nodup_iff.2 hdistinct
    obtain ⟨b, known, hset⟩ := exists_setMembers haccepts hplain hfits hskips hnodup start
    obtain ⟨-, -, hknown, -⟩ := fits_of_setMembers haccepts hplain hset
    have hnone : shape.required.find? (fun name => !known.contains name) = none := by
      rw [hknown]
      simpa using hcomplete
    refine ⟨b, ?_⟩
    rw [ofDraft, hset]
    dsimp only [bind, Except.bind, closing, Except.mapError]
    rw [hnone]
    rfl

/-- An array is a record if it can be passed over and has the form of one. -/
theorem exists_ofDraft_array_iff {items : List Draft} (hplain : ∀ d ∈ items, d.IsPlain)
    (stop : Option Stop) (start : α) : (∃ a, shape.ofDraft set start (.array items stop) = .ok a) ↔
      (Draft.array items stop).skip = .ok () ∧ shape.IsRecord Fits (.array items stop) := by
  have hfields : ∀ m ∈ shape.fields.zip items, m.1 ∈ shape.fields :=
    fun m hm => (List.of_mem_zip hm).1
  have hset (a : α) :=
    exists_setItems_iff haccepts (a := a) hfields fun m hm => hplain m.2 (List.of_mem_zip hm).2
  constructor
  · rintro ⟨a, h⟩
    obtain ⟨b, hb, h⟩ := exists_of_bind_eq_ok h
    obtain ⟨_, hend, -⟩ := exists_of_bind_eq_ok h
    obtain ⟨hleast, hmost, rfl⟩ := checkEnd_eq_ok_iff.1 hend
    have hfits := (hset start).1 ⟨b, hb⟩
    have hskips : skipItems items = .ok () := skipItems_eq_ok fun d hd => by
      rw [← List.map_snd_zip hmost] at hd
      obtain ⟨m, hm, rfl⟩ := List.mem_map.1 hd
      exact haccepts.skip (hfits m hm)
    refine ⟨congrArg (· >>= fun _ => (.ok () : Except SyntaxError Unit)) hskips,
      .array hfits hleast hmost⟩
  · rintro ⟨hskip, hrecord⟩
    obtain ⟨⟩ | ⟨hfits, hleast, hmost⟩ := hrecord
    obtain ⟨_, -, hclosing⟩ := exists_of_bind_eq_ok hskip
    obtain rfl := eq_none_of_skipClosing hclosing
    obtain ⟨b, hb⟩ := (hset start).2 hfits
    refine ⟨b, ?_⟩
    rw [ofDraft, hb]
    change (shape.checkEnd items none >>= fun _ => pure b) = .ok b
    rw [checkEnd_eq_ok_iff.2 ⟨hleast, hmost, rfl⟩]
    rfl

/-- **A record is read from a text if the text is JSON and has the form of the record**, and only
then. -/
theorem exists_read_iff (start : α) (text : String) : (∃ a, shape.read set start text = .ok a) ↔
    IsJson text ∧ shape.IsRecord Fits (Draft.read text).value := by
  have hplain := isPlain_read text
  rw [isJson_iff, and_right_comm]
  unfold Shape.read
  generalize Draft.read text = read at hplain ⊢
  obtain ⟨d, trailing⟩ := read
  have hdraft : (∃ a, shape.ofDraft set start d = .ok a) ↔
      d.skip = .ok () ∧ shape.IsRecord Fits d := by
    cases hplain with
    | object hmembers => exact exists_ofDraft_object_iff haccepts hmembers _ start
    | array hitems => exact exists_ofDraft_array_iff haccepts hitems _ start
    | _ => exact iff_of_false nofun (fun h => nomatch h.2)
  dsimp only
  rw [← hdraft]
  constructor
  · rintro ⟨a, h⟩
    obtain ⟨b, hb, h⟩ := exists_of_bind_eq_ok h
    cases trailing with
    | true => cases h
    | false => exact ⟨⟨b, hb⟩, rfl⟩
  · rintro ⟨⟨a, ha⟩, rfl⟩
    exact ⟨a, by rw [ha]; rfl⟩

end

end Dossier.Json.Shape
