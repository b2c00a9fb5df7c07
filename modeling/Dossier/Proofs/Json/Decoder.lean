import Mathlib.Algebra.Group.Nat.Defs
import Mathlib.Data.List.Forall2
import Dossier.Proofs.Json.Decode

/-!
# What a value says

The values that strings, numbers, lists and named variants are decoded from, told without decoding,
and for each decoder the law that it accepts these values and no others.
-/

namespace Dossier.Json

variable {α : Type} {v : Value}

/-! ## Single values -/

/-- A text. -/
def IsText (v : Value) (s : String) : Prop := v = .string s

/-- A truth value. -/
def IsTruth (v : Value) (b : Bool) : Prop := v = .bool b

/-- A natural number of 64 bits. -/
def IsSize (v : Value) (n : Nat) : Prop := v = .int n ∧ n < 2 ^ 64

/-- A named variant: its name, or an object that gives the name an empty payload. -/
inductive IsNamed (name : α → String) : Value → α → Prop
  | name (a : α) : IsNamed name (.string (name a)) a
  | null (a : α) : IsNamed name (.object [(name a, .null)]) a
  | empty (a : α) : IsNamed name (.object [(name a, .object [])]) a

/-- A list, item by item. -/
def IsListOf (Is : Value → α → Prop) (v : Value) (as : List α) : Prop :=
  ∃ items, v = .array items ∧ items.Forall₂ Is as

/-- Something that `null` may stand in the place of. -/
inductive OrNull (Is : Value → α → Prop) : Value → Option α → Prop
  | null : OrNull Is .null none
  | given {v : Value} {a : α} (h : Is v a) : OrNull Is v (some a)

/-! ## What may be left out -/

/-- Something that may be left out, and then is what it is by default. -/
inductive IsGiven (Is : Value → α → Prop) (default : α) : Option Value → α → Prop
  | absent : IsGiven Is default none default
  | given {v : Value} {a : α} (h : Is v a) : IsGiven Is default (some v) a

/-- What is left out is what it is by default. -/
theorem IsGiven.eq_default {Is : Value → α → Prop} {default a : α}
    (h : IsGiven Is default none a) : a = default := by
  cases h
  rfl

/-- What is given says one thing if each value does. -/
theorem IsGiven.unique {Is : Value → α → Prop} {default a a' : α} {v? : Option Value}
    (h : IsGiven Is default v? a) (hunique : ∀ {v a a'}, Is v a → Is v a' → a = a')
    (h' : IsGiven Is default v? a') : a = a' := by
  cases h with
  | absent =>
    cases h'
    rfl
  | given h =>
    cases h' with
    | given h' => exact hunique h h'

namespace Decoder

/-- What is decoded exactly if a value says it is the one thing that the value says. -/
theorem unique {Is : Value → α → Prop} {decode : Decoder α} {a a' : α}
    (hdecode : ∀ {v a}, decode v = .ok a ↔ Is v a) (h : Is v a) (h' : Is v a') : a = a' :=
  Except.ok.inj ((hdecode.2 h).symm.trans (hdecode.2 h'))

theorem string_eq_ok_iff {s : String} : string v = .ok s ↔ IsText v s := by
  cases v <;> simp [string, IsText]

theorem boolean_eq_ok_iff {b : Bool} : boolean v = .ok b ↔ IsTruth v b := by
  cases v <;> simp [boolean, IsTruth]

theorem size_eq_ok_iff {n : Nat} : size v = .ok n ↔ IsSize v n := by
  have hcount : Decimal.wordCount = 2 ^ 64 := by decide
  unfold size IsSize
  split
  case h_1 i =>
    split
    case isTrue h =>
      simp only [Bool.and_eq_true, decide_eq_true_eq, hcount] at h
      simp only [Except.ok.injEq, Value.int.injEq]
      omega
    case isFalse h =>
      simp only [Bool.and_eq_true, decide_eq_true_eq, hcount] at h
      simp only [reduceCtorEq, Value.int.injEq, false_iff]
      omega
  case h_2 hne => exact ⟨nofun, fun h => absurd h.1 (hne n)⟩

variable {Is : Value → α → Prop} {decode : Decoder α} {all : List α} {name : α → String} {a : α}

/-- What may be `null` is decoded as it is said, if `null` itself says nothing. -/
theorem option_eq_ok_iff {a? : Option α} (hdecode : ∀ {v a}, decode v = .ok a ↔ Is v a)
    (hnull : ∀ a, ¬Is .null a) : option decode v = .ok a? ↔ OrNull Is v a? := by
  unfold option
  split
  case h_1 =>
    constructor
    · rintro ⟨⟩
      exact .null
    · rintro (_ | h)
      · rfl
      · exact absurd h (hnull _)
  case h_2 hne =>
    constructor
    · intro h
      obtain ⟨a, ha, rfl⟩ := exists_of_map_eq_ok h
      exact .given (hdecode.1 ha)
    · rintro (_ | h)
      · exact absurd rfl hne
      · rw [hdecode.2 h]
        rfl

theorem option_string_eq_ok_iff {s? : Option String} :
    option string v = .ok s? ↔ OrNull IsText v s? :=
  option_eq_ok_iff string_eq_ok_iff nofun

theorem option_size_eq_ok_iff {n? : Option Nat} : option size v = .ok n? ↔ OrNull IsSize v n? :=
  option_eq_ok_iff size_eq_ok_iff nofun

/-- A list is decoded item by item. -/
theorem items_eq_ok_iff {items : List Value} {as : List α}
    (hdecode : ∀ {v a}, decode v = .ok a ↔ Is v a) :
    Decoder.items decode items = .ok as ↔ items.Forall₂ Is as := by
  induction items generalizing as with
  | nil =>
    constructor
    · rintro ⟨⟩
      exact .nil
    · rintro ⟨⟩
      rfl
  | cons v rest ih =>
    constructor
    · intro h
      obtain ⟨a, ha, h⟩ := exists_of_bind_eq_ok h
      obtain ⟨later, hlater, ⟨⟩⟩ := exists_of_bind_eq_ok h
      exact .cons (hdecode.1 ha) (ih.1 hlater)
    · rintro (_ | ⟨hfirst, hrest⟩)
      rw [Decoder.items, hdecode.2 hfirst, ih.2 hrest]
      rfl

theorem list_eq_ok_iff {as : List α} (hdecode : ∀ {v a}, decode v = .ok a ↔ Is v a) :
    list decode v = .ok as ↔ IsListOf Is v as := by
  cases v with
  | array items =>
    refine (items_eq_ok_iff hdecode).trans ⟨fun h => ⟨items, rfl, h⟩, ?_⟩
    rintro ⟨_, ⟨⟩, h⟩
    exact h
  | _ => exact iff_of_false nofun fun ⟨_, h, _⟩ => nomatch h

variable (hnamed : ∀ a, named all name (name a) = .ok a)

include hnamed

/-- Of variants that are found by their names, the one of a given name is found. -/
theorem named_eq_ok_iff {s : String} : named all name s = .ok a ↔ name a = s := by
  constructor
  · intro h
    unfold named at h
    split at h
    case h_1 b hb =>
      cases h
      simpa using List.find?_some hb
    case h_2 => cases h
  · rintro rfl
    exact hnamed a

/-- A variant is decoded from its name, alone or with an empty payload. -/
theorem variantWith_eq_ok_iff :
    variantWith (· matches .null | .object []) all name v = .ok a ↔ IsNamed name v a := by
  constructor
  · intro h
    unfold variantWith at h
    split at h
    case h_1 =>
      obtain rfl := (named_eq_ok_iff hnamed).1 h
      exact .name a
    case h_2 =>
      obtain ⟨b, hb, hpayload⟩ := exists_of_bind_eq_ok h
      obtain rfl := (named_eq_ok_iff hnamed).1 hb
      split at hpayload
      case isTrue hempty =>
        cases hpayload
        dsimp only at hempty
        split at hempty
        · exact .null a
        · exact .empty a
        · cases hempty
      case isFalse => cases hpayload
    case h_3 | h_4 => cases h
  · rintro (_ | _ | _)
    · exact hnamed a
    all_goals
      rw [variantWith, hnamed]
      rfl

end Decoder

end Dossier.Json
