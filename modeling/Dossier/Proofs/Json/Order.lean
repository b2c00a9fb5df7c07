import Dossier.Proofs.Json.Draft
import Dossier.Proofs.Json.Members

/-!
# Values that are read are in order

In every object that is read each key stands once, and the keys ascend (`Value.IsOrdered`), since
the members of a draft are put in their places one after another (`Draft.IsPlain.isOrdered`). What
a draft holds as a value from the beginning is a number only (`isPlain_read`). So what a record
that is read is made of is in order, even where the rest of the text is passed over and is no value
(`Shape.holds_of_read`).
-/

namespace Dossier.Json

open Dossier.Text (Rest)

variable {v : Value} {members : Members} {text : String}

/-- JSON values as they are read: in every object each key stands once, and the keys ascend. -/
inductive Value.IsOrdered : Value → Prop
  | null : IsOrdered .null
  | bool (b : Bool) : IsOrdered (.bool b)
  | int (i : Int) : IsOrdered (.int i)
  | float (x : Float) : IsOrdered (.float x)
  | string (s : String) : IsOrdered (.string s)
  | array {items : List Value} (h : ∀ v ∈ items, v.IsOrdered) : IsOrdered (.array items)
  | object {members : Members} (hkeys : members.Ascending) (h : ∀ m ∈ members, m.2.IsOrdered) :
    IsOrdered (.object members)

/-- The members of an object that is read stand in order. -/
theorem Value.IsOrdered.ascending (h : (Value.object members).IsOrdered) : members.Ascending := by
  cases h with
  | object hkeys _ => exact hkeys

/-! ## Numbers -/

/-- The values that numbers are read as. -/
inductive Value.IsNumber : Value → Prop
  | int (i : Int) : IsNumber (.int i)
  | float (x : Float) : IsNumber (.float x)

theorem Value.IsNumber.isOrdered (h : v.IsNumber) : v.IsOrdered := by
  cases h <;> constructor

/-- What is spelt as a number is a number. -/
theorem Spelling.isNumber {s : Spelling} (h : s.number = .ok v) : v.IsNumber := by
  unfold number at h
  dsimp only at h
  split at h
  case h_1 =>
    split at h
    case isTrue =>
      cases h
      exact .int _
    case isFalse =>
      split at h <;> cases h
      · exact .float _
      · exact .int _
  case h_2 =>
    obtain ⟨x, -, rfl⟩ := exists_of_map_eq_ok h
    exact .float x

/-- A lexeme that is a number has no other value than one. -/
def Lexeme.IsPlain : Lexeme → Prop
  | .number n => ∀ v, n = .ok v → v.IsNumber
  | _ => True

/-- A number that is cut from a text is plain. -/
theorem isPlain_of_readNumber {negative : Bool} {c : Char} {cs : List Char} {t : Lexeme}
    {tail : Text.Tail cs} (h : readNumber negative c cs = .ok (t, tail)) : t.IsPlain := by
  unfold readNumber at h
  dsimp only at h
  split at h
  · cases h
  · obtain ⟨_, -, h⟩ := exists_of_bind_eq_ok h
    obtain ⟨_, -, h⟩ := exists_of_bind_eq_ok h
    cases h
    exact fun v hv => Spelling.isNumber hv

/-- So is every lexeme. -/
theorem isPlain_of_readLexeme {c : Char} {cs : List Char} {t : Lexeme} {tail : Text.Tail cs}
    (h : readLexeme c cs = .ok (t, tail)) : t.IsPlain := by
  unfold readLexeme at h
  split at h
  case h_11 =>
    split at h
    · cases h
    · split at h
      · obtain ⟨_, hnumber, ⟨⟩⟩ := exists_of_map_eq_ok h
        exact isPlain_of_readNumber hnumber
      · cases h
  case h_12 =>
    split at h
    · exact isPlain_of_readNumber h
    · cases h
      trivial
  case h_7 | h_8 | h_9 | h_10 =>
    obtain ⟨_, -, ⟨⟩⟩ := exists_of_map_eq_ok h
    trivial
  all_goals
    cases h
    trivial

/-- The lexemes of a text are plain. -/
theorem isPlain_lexemes (cs : List Char) : ∀ t ∈ lexemes cs, t.IsPlain := by
  induction cs using lexemes.induct with
  | case1 =>
    rw [lexemes]
    exact List.forall_mem_nil _
  | case2 c cs hblank ih =>
    rw [lexemes, if_pos hblank]
    exact ih
  | case3 c cs hblank stop hstop =>
    rw [lexemes, if_neg hblank, hstop]
    refine List.forall_mem_singleton.2 ?_
    split <;> trivial
  | case4 c cs hblank t tail ht ih =>
    rw [lexemes, if_neg hblank, ht]
    exact List.forall_mem_cons.2 ⟨isPlain_of_readLexeme ht, ih⟩

/-! ## Drafts -/

/-- A draft that holds no value but numbers. -/
inductive Draft.IsPlain : Draft → Prop
  | null : IsPlain .null
  | bool (b : Bool) : IsPlain (.bool b)
  | number {n : Except SyntaxError Value} (h : ∀ v, n = .ok v → v.IsNumber) : IsPlain (.number n)
  | string (s : Except SyntaxError String) : IsPlain (.string s)
  | array {items : List Draft} {stop : Option Stop} (h : ∀ d ∈ items, d.IsPlain) :
      IsPlain (.array items stop)
  | object {members : List DraftMember} {stop : Option Stop} (h : ∀ m ∈ members, m.2.IsPlain) :
    IsPlain (.object members stop)
  | unreadable (stop : Stop) : IsPlain (.unreadable stop)

/-- What is left to read, if anything is, is plain. -/
def LeavesPlain {ts : List Lexeme} (rest? : Option (Rest ts)) : Prop :=
  ∀ rest, rest? = some rest → ∀ t ∈ rest.val, t.IsPlain

namespace LeavesPlain

variable {t : Lexeme} {ts : List Lexeme}

theorem none : LeavesPlain (.none : Option (Rest ts)) := nofun

theorem tail (h : ∀ t ∈ ts, t.IsPlain) : LeavesPlain (some (.tail t ts)) := by
  rintro _ ⟨⟩
  exact h

theorem cons {rest? : Option (Rest ts)} (h : LeavesPlain rest?) :
    LeavesPlain (rest?.map (·.cons t)) := by
  intro rest hrest
  obtain ⟨rest', rfl, rfl⟩ := Option.map_eq_some_iff.1 hrest
  exact h rest' rfl

theorem trans {rest : Rest ts} {rest? : Option (Rest rest.val)} (h : LeavesPlain rest?) :
    LeavesPlain (rest?.map rest.trans) := by
  intro rest' hrest
  obtain ⟨rest', rfl, rfl⟩ := Option.map_eq_some_iff.1 hrest
  exact h rest' rfl

end LeavesPlain

-- The recursion is on `n`: the length of the lexemes is not seen any more where these are taken
-- apart.
mutual

/-- A draft that is read from plain lexemes is plain. -/
theorem isPlain_readValue (n : Nat) (ts : List Lexeme) (hn : ts.length = n)
    (h : ∀ t ∈ ts, t.IsPlain) :
    (readValue ts).1.IsPlain ∧ LeavesPlain (readValue ts).2 := by
  unfold readValue
  split
  case h_1 => exact ⟨.unreadable _, .none⟩
  case h_2 t ts =>
    obtain ⟨ht, hts⟩ := List.forall_mem_cons.1 h
    split
    case h_1 => exact ⟨.null, .tail hts⟩
    case h_2 => exact ⟨.bool _, .tail hts⟩
    case h_3 => exact ⟨.number ht, .tail hts⟩
    case h_4 => exact ⟨.string _, .tail hts⟩
    case h_5 =>
      obtain ⟨hitems, hrest⟩ := isPlain_readItems _ true ts rfl hts
      exact ⟨.array hitems, hrest.cons⟩
    case h_6 =>
      obtain ⟨hmembers, hrest⟩ := isPlain_readMembers _ true ts rfl hts
      exact ⟨.object hmembers, hrest.cons⟩
    case h_7 | h_8 | h_9 => exact ⟨.unreadable _, .none⟩
termination_by 3 * n
decreasing_by all_goals simp only [List.length_cons] at hn; omega

/-- Items that are read from plain lexemes are plain. -/
theorem isPlain_readItems (n : Nat) (first : Bool) (ts : List Lexeme) (hn : ts.length = n)
    (h : ∀ t ∈ ts, t.IsPlain) :
    (∀ d ∈ (readItems first ts).parts, d.IsPlain) ∧ LeavesPlain (readItems first ts).rest? := by
  unfold readItems
  split
  case h_1 => exact ⟨List.forall_mem_nil _, .none⟩
  case h_2 t ts =>
    obtain ⟨ht, hts⟩ := List.forall_mem_cons.1 h
    split
    case h_1 => exact ⟨List.forall_mem_nil _, .tail hts⟩
    case h_2 => exact isPlain_readItemsFrom n (t :: ts) hn h
    case h_3 =>
      split
      case h_1 | h_2 => exact ⟨List.forall_mem_nil _, .none⟩
      case h_3 t ts _ =>
        obtain ⟨hitems, hrest⟩ := isPlain_readItemsFrom _ (t :: ts) rfl hts
        exact ⟨hitems, hrest.cons⟩
    case h_4 => exact ⟨List.forall_mem_nil _, .none⟩
termination_by 3 * n + 2
decreasing_by all_goals simp only [List.length_cons] at hn ⊢; omega

/-- An item and the items after it that are read from plain lexemes are plain. -/
theorem isPlain_readItemsFrom (n : Nat) (ts : List Lexeme) (hn : ts.length = n)
    (h : ∀ t ∈ ts, t.IsPlain) :
    (∀ d ∈ (readItemsFrom ts).parts, d.IsPlain) ∧ LeavesPlain (readItemsFrom ts).rest? := by
  unfold readItemsFrom
  obtain ⟨hvalue, hleft⟩ := isPlain_readValue n ts hn h
  generalize readValue ts = read at hvalue hleft ⊢
  obtain ⟨d, rest?⟩ := read
  cases rest? with
  | none => exact ⟨List.forall_mem_singleton.2 hvalue, .none⟩
  | some rest =>
    obtain ⟨hitems, hrest⟩ := isPlain_readItems _ false rest.val rfl (hleft rest rfl)
    exact ⟨List.forall_mem_cons.2 ⟨hvalue, hitems⟩, hrest.trans⟩
termination_by 3 * n + 1
decreasing_by
  · omega
  · have := rest.property
    omega

/-- Members that are read from plain lexemes are plain. -/
theorem isPlain_readMembers (n : Nat) (first : Bool) (ts : List Lexeme) (hn : ts.length = n)
    (h : ∀ t ∈ ts, t.IsPlain) :
    (∀ m ∈ (readMembers first ts).parts, m.2.IsPlain) ∧
    LeavesPlain (readMembers first ts).rest? := by
  unfold readMembers
  split
  case h_1 => exact ⟨List.forall_mem_nil _, .none⟩
  case h_2 t ts =>
    obtain ⟨ht, hts⟩ := List.forall_mem_cons.1 h
    split
    case h_1 => exact ⟨List.forall_mem_nil _, .tail hts⟩
    case h_2 => exact isPlain_readMembersFrom n (t :: ts) hn h
    case h_3 =>
      split
      case h_1 | h_2 => exact ⟨List.forall_mem_nil _, .none⟩
      case h_3 t ts _ =>
        obtain ⟨hmembers, hrest⟩ := isPlain_readMembersFrom _ (t :: ts) rfl hts
        exact ⟨hmembers, hrest.cons⟩
    case h_4 => exact ⟨List.forall_mem_nil _, .none⟩
termination_by 3 * n + 2
decreasing_by all_goals simp only [List.length_cons] at hn ⊢; omega

/-- A member and the members after it that are read from plain lexemes are plain. -/
theorem isPlain_readMembersFrom (n : Nat) (ts : List Lexeme) (hn : ts.length = n)
    (h : ∀ t ∈ ts, t.IsPlain) :
    (∀ m ∈ (readMembersFrom ts).parts, m.2.IsPlain) ∧ LeavesPlain (readMembersFrom ts).rest? := by
  unfold readMembersFrom
  split
  case h_1 key ts =>
    have hts : ∀ t ∈ ts, t.IsPlain := fun t ht => h t (.tail _ (.tail _ ht))
    obtain ⟨hvalue, hleft⟩ := isPlain_readValue _ ts rfl hts
    generalize readValue ts = read at hvalue hleft ⊢
    obtain ⟨d, rest?⟩ := read
    cases rest? with
    | none => exact ⟨List.forall_mem_singleton.2 hvalue, .none⟩
    | some rest =>
      obtain ⟨hmembers, hrest⟩ := isPlain_readMembers _ false rest.val rfl (hleft rest rfl)
      have hmember : @LeavesPlain (.string key :: .colon :: ts) _ := hrest.trans.cons.cons
      rw [Option.map_map, Option.map_map] at hmember
      exact ⟨List.forall_mem_cons.2 ⟨hvalue, hmembers⟩, hmember⟩
  case h_2 | h_3 => exact ⟨List.forall_mem_singleton.2 (.unreadable _), .none⟩
  case h_4 | h_5 => exact ⟨List.forall_mem_nil _, .none⟩
termination_by 3 * n + 1
decreasing_by
  · simp only [List.length_cons] at hn
    omega
  · have := rest.property
    simp only [List.length_cons] at hn
    omega

end

/-- The draft of a text is plain. -/
theorem isPlain_read (text : String) : (Draft.read text).value.IsPlain := by
  rw [Draft.read_eq]
  exact (isPlain_readValue _ _ rfl (isPlain_lexemes text.toList)).1

/-! ## Values -/

/-- Items have values that are in order, if each of them has. -/
theorem isOrdered_of_toItems {room : Nat} {items : List Draft} {values : List Value}
    (hitems : ∀ d ∈ items, ∀ v, d.toValue room = .ok v → v.IsOrdered)
    (h : toItems room items = .ok values) : ∀ v ∈ values, v.IsOrdered := by
  induction items generalizing values with
  | nil =>
    cases h
    exact List.forall_mem_nil _
  | cons d rest ih =>
    obtain ⟨v, hv, h⟩ := exists_of_bind_eq_ok h
    obtain ⟨values, hvalues, ⟨⟩⟩ := exists_of_bind_eq_ok h
    have hrest := ih (fun d hd => hitems d (.tail _ hd)) hvalues
    exact List.forall_mem_cons.2 ⟨hitems d (.head _) v hv, hrest⟩

/-- Members that are put in their places one after another are in order. -/
theorem isOrdered_of_toMembers {room : Nat} {members : List DraftMember} {done values : Members}
    (hmembers : ∀ m ∈ members, ∀ v, m.2.toValue room = .ok v → v.IsOrdered)
    (hdone : (Value.object done).IsOrdered)
    (h : toMembers room done members = .ok values) : (Value.object values).IsOrdered := by
  induction members generalizing done with
  | nil =>
    cases h
    exact hdone
  | cons member rest ih =>
    obtain ⟨key?, d⟩ := member
    obtain ⟨key, -, h⟩ := exists_of_bind_eq_ok h
    obtain ⟨v, hv, h⟩ := exists_of_bind_eq_ok h
    refine ih (fun m hm => hmembers m (.tail _ hm)) ?_ h
    cases hdone with
    | object hkeys hvalues =>
      refine .object hkeys.put fun m hm => ?_
      rcases Members.mem_put hm with rfl | hm
      · exact hmembers _ (.head _) v hv
      · exact hvalues m hm

/-- **The value of a draft is in order.** -/
theorem Draft.IsPlain.isOrdered {d : Draft} (hd : d.IsPlain) {room : Nat}
    (h : d.toValue room = .ok v) : v.IsOrdered := by
  induction hd generalizing room v with
  | null | bool =>
    cases h
    constructor
  | number hn => exact (hn v h).isOrdered
  | string s =>
    obtain ⟨s, -, rfl⟩ := exists_of_map_eq_ok h
    exact .string s
  | array _ ih =>
    cases room with
    | zero => cases h
    | succ room =>
      obtain ⟨values, hvalues, h⟩ := exists_of_bind_eq_ok h
      obtain ⟨-, -, ⟨⟩⟩ := exists_of_bind_eq_ok h
      exact .array (isOrdered_of_toItems (fun d hd v => ih d hd) hvalues)
  | object _ ih =>
    cases room with
    | zero => cases h
    | succ room =>
      obtain ⟨values, hvalues, h⟩ := exists_of_bind_eq_ok h
      obtain ⟨-, -, ⟨⟩⟩ := exists_of_bind_eq_ok h
      exact isOrdered_of_toMembers (fun m hm v => ih m hm)
        (.object .nil (List.forall_mem_nil _)) hvalues
  | unreadable => cases h

/-! ## Records -/

namespace Shape

variable {α : Type} {shape : Shape α} {set : DraftSetter α} {Holds : α → Prop} {a b : α}

/-- A setter keeps a property of records, if what it sets is plain. -/
def SetterKeeps (set : DraftSetter α) (Holds : α → Prop) : Prop :=
  ∀ {a b : α} {key : String} {d : Draft}, d.IsPlain → set a key d = .ok b → Holds a → Holds b

/-- Members that are set keep what their setter keeps. -/
theorem holds_of_setMembers (hset : SetterKeeps set Holds) {members : List DraftMember}
    {known known' : List String} (hmembers : ∀ m ∈ members, m.2.IsPlain)
    (h : shape.setMembers set a known members = .ok (b, known')) (ha : Holds a) : Holds b := by
  induction members generalizing a known with
  | nil =>
    cases h
    exact ha
  | cons member rest ih =>
    obtain ⟨key?, d⟩ := member
    obtain ⟨hd, hrest⟩ := List.forall_mem_cons.1 hmembers
    obtain ⟨key, -, h⟩ := exists_of_bind_eq_ok h
    split at h
    case isTrue =>
      obtain ⟨-, -, h⟩ := exists_of_bind_eq_ok h
      exact ih hrest h ha
    case isFalse =>
      split at h
      case isTrue => cases h
      case isFalse =>
        obtain ⟨next, hnext, h⟩ := exists_of_bind_eq_ok h
        exact ih hrest h (hset hd hnext ha)

/-- So do fields. -/
theorem holds_of_setItems (hset : SetterKeeps set Holds) {items : List (String × Draft)}
    (hitems : ∀ m ∈ items, m.2.IsPlain) (h : setItems set a items = .ok b) (ha : Holds a) :
    Holds b := by
  induction items generalizing a with
  | nil =>
    cases h
    exact ha
  | cons item rest ih =>
    obtain ⟨hd, hrest⟩ := List.forall_mem_cons.1 hitems
    obtain ⟨next, hnext, h⟩ := exists_of_bind_eq_ok h
    exact ih hrest h (hset hd hnext ha)

/-- A record is as its setter keeps it if it begins so. -/
theorem holds_of_ofDraft (hset : SetterKeeps set Holds) {d : Draft} (hd : d.IsPlain)
    (h : shape.ofDraft set a d = .ok b) (ha : Holds a) : Holds b := by
  cases hd with
  | object hmembers =>
    obtain ⟨⟨next, known⟩, hnext, h⟩ := exists_of_bind_eq_ok h
    obtain ⟨-, -, h⟩ := exists_of_bind_eq_ok h
    have hb : next = b := by
      split at h
      · cases h
      · exact Except.ok.inj h
    exact hb ▸ holds_of_setMembers hset hmembers hnext ha
  | array hitems =>
    obtain ⟨next, hnext, h⟩ := exists_of_bind_eq_ok h
    obtain ⟨-, -, ⟨⟩⟩ := exists_of_bind_eq_ok h
    exact holds_of_setItems hset (fun m hm => hitems m.2 (List.of_mem_zip hm).2) hnext ha
  | _ => cases h

/-- **A record that is read is as its setter keeps it.** -/
theorem holds_of_read (hset : SetterKeeps set Holds) (h : shape.read set a text = .ok b)
    (ha : Holds a) : Holds b :=
  holds_of_ofDraft hset (isPlain_read text) (ofDraft_of_read h) ha

end Shape

end Dossier.Json
