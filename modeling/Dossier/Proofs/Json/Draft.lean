import Dossier.Json.Record
import Dossier.Proofs.Json.Lexeme
import Dossier.Proofs.Json.Structure

/-!
# Laws of drafts

A text is the value of its draft if nothing but blanks follows (`Value.read_eq_ok_iff`), and a
record that is read from it is that of the same draft (`Shape.ofDraft_of_read`). A draft that has a
value can be passed over, so it is spelt by its lexemes, and these are without fault
(`Spells.isSound`). So blanks around a text do not change what value it is (`read_trim`).
-/

namespace Dossier.Json

variable {text : String} {v : Value} {ts : List Lexeme}

/-- A text is a value if its draft is, and nothing but blanks follows. -/
theorem Value.read_eq_ok_iff : Value.read text = .ok v ↔
    (Draft.read text).value.toValue depthLimit = .ok v ∧ (Draft.read text).trailing = false := by
  unfold Value.read
  obtain ⟨draft, trailing⟩ := Draft.read text
  dsimp only
  cases draft.toValue depthLimit with
  | error e => exact iff_of_false (fun h => nomatch h) (fun h => nomatch h.1)
  | ok w =>
    cases trailing with
    | true => exact iff_of_false (fun h => nomatch h) (fun h => nomatch h.2)
    | false => exact (and_iff_left rfl).symm

/-- A record that is read from a text is what the draft of the text is. -/
theorem Shape.ofDraft_of_read {α : Type} {shape : Shape α} {set : Shape.DraftSetter α}
    {start a : α} (h : shape.read set start text = .ok a) :
    shape.ofDraft set start (Draft.read text).value = .ok a := by
  unfold Shape.read at h
  generalize Draft.read text = read at h
  obtain ⟨draft, trailing⟩ := read
  obtain ⟨b, hb, h⟩ := exists_of_bind_eq_ok h
  cases trailing with
  | true => cases h
  | false =>
    cases h
    exact hb

/-! ## Drafts that have a value -/

/-- An array or object that is closed has no fault at its end. -/
theorem eq_none_of_closing {stop : Option Stop} {u : Unit} (h : closing stop = .ok u) :
    stop = none := by
  cases stop with
  | none => rfl
  | some s => cases h

mutual

/-- A draft that has a value can be passed over. -/
theorem Draft.skip_of_toValue {room : Nat} {v : Value} :
    ∀ {d : Draft}, d.toValue room = .ok v → d.skip = .ok ()
  | .null, _ | .bool _, _ | .number _, _ | .string _, _ => rfl
  | .unreadable _, h => nomatch h
  | .array _ _, h => by
    cases room with
    | zero => cases h
    | succ room =>
      obtain ⟨values, hvalues, h⟩ := exists_of_bind_eq_ok h
      obtain ⟨_, hclosing, -⟩ := exists_of_bind_eq_ok h
      rw [eq_none_of_closing hclosing]
      exact congrArg (· >>= fun _ => .ok ()) (skipItems_of_toItems hvalues)
  | .object _ _, h => by
    cases room with
    | zero => cases h
    | succ room =>
      obtain ⟨values, hvalues, h⟩ := exists_of_bind_eq_ok h
      obtain ⟨_, hclosing, -⟩ := exists_of_bind_eq_ok h
      rw [eq_none_of_closing hclosing]
      exact congrArg (· >>= fun _ => .ok ()) (skipMembers_of_toMembers hvalues)

/-- Items that have values can be passed over. -/
theorem skipItems_of_toItems {room : Nat} {values : List Value} :
    ∀ {items : List Draft}, toItems room items = .ok values → skipItems items = .ok ()
  | [], _ => rfl
  | _ :: _, h => by
    obtain ⟨v, hv, h⟩ := exists_of_bind_eq_ok h
    obtain ⟨values, hvalues, -⟩ := exists_of_bind_eq_ok h
    rw [skipItems, Draft.skip_of_toValue hv]
    exact skipItems_of_toItems hvalues

/-- Members that have values can be passed over. -/
theorem skipMembers_of_toMembers {room : Nat} {done values : Members} :
    ∀ {members : List DraftMember}, toMembers room done members = .ok values →
    skipMembers members = .ok ()
  | [], _ => rfl
  | (_, _) :: _, h => by
    obtain ⟨k, -, h⟩ := exists_of_bind_eq_ok h
    obtain ⟨v, hv, h⟩ := exists_of_bind_eq_ok h
    rw [skipMembers, Draft.skip_of_toValue hv]
    exact skipMembers_of_toMembers h

end

/-- What lexemes spell has a value, or values. -/
def Tree.HasValue : Tree → Prop
  | .value d => ∃ room v, d.toValue room = .ok v
  | .items ds => ∃ room values, toItems room ds = .ok values
  | .members ms => ∃ room done values, toMembers room done ms = .ok values

/-- Lexemes that spell what has a value are without fault. -/
theorem Spells.isSound {tree : Tree} (h : Spells tree ts) (hvalue : tree.HasValue) :
    ∀ t ∈ ts, t.isSound = true := by
  induction h with
  | null | bool => exact List.forall_mem_singleton.2 rfl
  | number n =>
    obtain ⟨room, v, hv⟩ := hvalue
    change n = .ok v at hv
    subst hv
    exact List.forall_mem_singleton.2 rfl
  | string s =>
    obtain ⟨room, v, hv⟩ := hvalue
    obtain ⟨s, rfl, -⟩ := exists_of_map_eq_ok hv
    exact List.forall_mem_singleton.2 rfl
  | emptyArray | emptyObject => simp [Lexeme.isSound]
  | array _ ih =>
    obtain ⟨room, v, hv⟩ := hvalue
    cases room with
    | zero => cases hv
    | succ room =>
      obtain ⟨values, hvalues, -⟩ := exists_of_bind_eq_ok hv
      simpa [Lexeme.isSound, or_imp, forall_and] using ih ⟨room, values, hvalues⟩
  | object _ ih =>
    obtain ⟨room, v, hv⟩ := hvalue
    cases room with
    | zero => cases hv
    | succ room =>
      obtain ⟨values, hvalues, -⟩ := exists_of_bind_eq_ok hv
      simpa [Lexeme.isSound, or_imp, forall_and] using ih ⟨room, [], values, hvalues⟩
  | lastItem _ ih =>
    obtain ⟨room, values, hvalues⟩ := hvalue
    obtain ⟨v, hv, -⟩ := exists_of_bind_eq_ok hvalues
    exact ih ⟨room, v, hv⟩
  | item _ _ ih ihs =>
    obtain ⟨room, values, hvalues⟩ := hvalue
    obtain ⟨v, hv, hvalues⟩ := exists_of_bind_eq_ok hvalues
    obtain ⟨values, hvalues, -⟩ := exists_of_bind_eq_ok hvalues
    exact List.forall_mem_append.2
      ⟨ih ⟨room, v, hv⟩, List.forall_mem_cons.2 ⟨rfl, ihs ⟨room, values, hvalues⟩⟩⟩
  | @lastMember key _ _ _ ih =>
    obtain ⟨room, done, values, hvalues⟩ := hvalue
    obtain ⟨k, hk, hvalues⟩ := exists_of_bind_eq_ok hvalues
    obtain ⟨v, hv, -⟩ := exists_of_bind_eq_ok hvalues
    have hkey : key.isOk = true := by rw [hk]; rfl
    exact List.forall_mem_cons.2 ⟨hkey, List.forall_mem_cons.2 ⟨rfl, ih ⟨room, v, hv⟩⟩⟩
  | @member key _ _ ts us _ _ ih ihs =>
    obtain ⟨room, done, values, hvalues⟩ := hvalue
    obtain ⟨k, hk, hvalues⟩ := exists_of_bind_eq_ok hvalues
    obtain ⟨v, hv, hvalues⟩ := exists_of_bind_eq_ok hvalues
    have hkey : key.isOk = true := by rw [hk]; rfl
    have hrest : ∀ t ∈ ts ++ .comma :: us, t.isSound = true := List.forall_mem_append.2
      ⟨ih ⟨room, v, hv⟩, List.forall_mem_cons.2 ⟨rfl, ihs ⟨room, _, values, hvalues⟩⟩⟩
    exact List.forall_mem_cons.2 ⟨hkey, List.forall_mem_cons.2 ⟨rfl, hrest⟩⟩

/-- The draft of a text is read from its lexemes. -/
theorem Draft.read_eq (text : String) : Draft.read text =
    ⟨(readValue (lexemes text.toList)).1,
      (readValue (lexemes text.toList)).2.any (!·.val.isEmpty)⟩ := by
  unfold Draft.read
  split
  case h_1 h => rw [h]; rfl
  case h_2 h => rw [h]; rfl

/-- What is read of lexemes that spell a value is that value. -/
theorem Draft.read_of_spells {d : Draft} (h : Spells (.value d) (lexemes text.toList)) :
    Draft.read text = ⟨d, false⟩ := by
  have hvalue : ∃ h, readValue (lexemes text.toList ++ []) = (d, some ⟨[], h⟩) := h.isReadFrom []
  rw [List.append_nil] at hvalue
  obtain ⟨_, hread⟩ := hvalue
  rw [Draft.read_eq, hread]
  rfl

/-- A text that is passed over is spelt by its lexemes. -/
theorem spells_lexemes (hskip : (Draft.read text).value.skip = .ok ())
    (htrailing : (Draft.read text).trailing = false) :
    Spells (.value (Draft.read text).value) (lexemes text.toList) := by
  rw [Draft.read_eq] at hskip htrailing ⊢
  obtain ⟨used, more, hle, hts, hrest, hused⟩ := isLeftAfter_readValue _ _ rfl hskip
  rw [hrest] at htrailing
  obtain rfl : more = [] := List.isEmpty_iff.1 (Bool.not_eq_eq_eq_not.1 htrailing)
  rw [List.nil_append, List.append_nil] at hts
  rw [hts] at hused ⊢
  exact hused

/-- A text that is a value is not empty. -/
theorem ne_empty_of_read (h : Value.read text = .ok v) : text ≠ "" := by
  rintro rfl
  obtain ⟨hvalue, -⟩ := Value.read_eq_ok_iff.1 h
  rw [Draft.read_eq, String.toList_empty, lexemes, readValue] at hvalue
  cases hvalue

/-- A text that is a value has no lexeme with a fault. -/
theorem isSound_of_read (h : Value.read text = .ok v) :
    ∀ t ∈ lexemes text.toList, t.isSound = true := by
  obtain ⟨hvalue, htrailing⟩ := Value.read_eq_ok_iff.1 h
  exact (spells_lexemes (Draft.skip_of_toValue hvalue) htrailing).isSound ⟨_, _, hvalue⟩

/-- A text that is a value is the same value without the blanks around it. -/
theorem read_trim (h : Value.read text = .ok v) : Value.read (Text.trim text) = .ok v := by
  obtain ⟨front, back, hfront, hback, htext⟩ := Text.exists_trim text
  have hsound := isSound_of_read h
  rw [htext, List.append_assoc] at hsound
  have hlexemes : lexemes text.toList = lexemes (Text.trim text).toList := by
    rw [htext, List.append_assoc, lexemes_blanks_append hfront hsound]
    rw [lexemes_blanks_append hfront hsound] at hsound
    exact lexemes_append_blanks hback hsound
  rw [Value.read, Draft.read_eq, ← hlexemes, ← Draft.read_eq]
  exact h

end Dossier.Json
