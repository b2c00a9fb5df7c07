import Dossier.Json.Draft
import Dossier.Proofs.Json.Decode

/-!
# The structure that lexemes spell

Lexemes spell a value whose structure is without fault, whatever its strings and numbers are
(`Spells`). Such a value is what is read from them (`Spells.isReadFrom`), and a draft that can be
passed over is read from lexemes that spell it (`isLeftAfter_readValue`).
-/

namespace Dossier.Json

open Dossier.Text (Rest)

variable {t : Lexeme} {ts : List Lexeme}

/-! ## What lexemes spell -/

/-- What lexemes may spell: a value, or the parts of an array or object with commas between
them. -/
inductive Tree where
  | value (d : Draft)
  | items (items : List Draft)
  | members (members : List DraftMember)

/-- Passes over what lexemes spell. -/
def Tree.skip : Tree → Except SyntaxError Unit
  | .value d => d.skip
  | .items ds => skipItems ds
  | .members ms => skipMembers ms

/-- Lexemes that spell something whose structure is without fault. There is at least one item or
member. -/
inductive Spells : Tree → List Lexeme → Prop
  | null : Spells (.value .null) [.null]
  | bool (b : Bool) : Spells (.value (.bool b)) [.bool b]
  | number (n : Except SyntaxError Value) : Spells (.value (.number n)) [.number n]
  | string (s : Except SyntaxError String) : Spells (.value (.string s)) [.string s]
  | emptyArray : Spells (.value (.array [] none)) [.openArray, .closeArray]
  | array {items : List Draft} {ts : List Lexeme} (h : Spells (.items items) ts) :
    Spells (.value (.array items none)) (.openArray :: (ts ++ [.closeArray]))
  | emptyObject : Spells (.value (.object [] none)) [.openObject, .closeObject]
  | object {members : List DraftMember} {ts : List Lexeme} (h : Spells (.members members) ts) :
    Spells (.value (.object members none)) (.openObject :: (ts ++ [.closeObject]))
  | lastItem {d : Draft} {ts : List Lexeme} (h : Spells (.value d) ts) : Spells (.items [d]) ts
  | item {d : Draft} {items : List Draft} {ts us : List Lexeme} (h : Spells (.value d) ts)
    (hs : Spells (.items items) us) : Spells (.items (d :: items)) (ts ++ .comma :: us)
  | lastMember {key : Except SyntaxError String} {d : Draft} {ts : List Lexeme}
    (h : Spells (.value d) ts) :
    Spells (.members [(key, d)]) (.string key :: .colon :: ts)
  | member {key : Except SyntaxError String} {d : Draft} {members : List DraftMember}
    {ts us : List Lexeme}
    (h : Spells (.value d) ts) (hs : Spells (.members members) us) :
    Spells (.members ((key, d) :: members)) (.string key :: .colon :: (ts ++ .comma :: us))

namespace Spells

variable {tree : Tree}

/-- What is spelt does not begin with the end of an array or object. -/
theorem exists_cons (h : Spells tree ts) :
    ∃ t us, ts = t :: us ∧ t ≠ .closeArray ∧ t ≠ .closeObject := by
  induction h with
  | lastItem _ ih => exact ih
  | item _ _ ih =>
    obtain ⟨t, us, rfl, ht⟩ := ih
    exact ⟨t, _, rfl, ht⟩
  | _ => exact ⟨_, _, rfl, nofun, nofun⟩

/-- What is spelt can be passed over. -/
theorem skip_eq_ok (h : Spells tree ts) : tree.skip = .ok () := by
  induction h with
  | null | bool | number | string | emptyArray | emptyObject => rfl
  | array _ ih | object _ ih => exact congrArg (· >>= fun _ => .ok ()) ih
  | lastItem _ ih | lastMember _ ih => exact congrArg (· >>= fun _ => .ok ()) ih
  | item _ _ ih ihs =>
    change (Draft.skip _ >>= fun _ => skipItems _) = _
    rw [show Draft.skip _ = _ from ih]
    exact ihs
  | member _ _ ih ihs =>
    change (Draft.skip _ >>= fun _ => skipMembers _) = _
    rw [show Draft.skip _ = _ from ih]
    exact ihs

end Spells

/-! ## Reading what is spelt -/

/-- Items begin with a value unless there are none. -/
theorem readItems_true (ht : t ≠ .closeArray) (ts : List Lexeme) :
    readItems true (t :: ts) = readItemsFrom (t :: ts) := by
  rw [readItems]
  exact ht

/-- More items follow a comma. -/
theorem readItems_comma (ht : t ≠ .closeArray) (ts : List Lexeme) :
    readItems false (.comma :: t :: ts) = (readItemsFrom (t :: ts)).after .comma := by
  rw [readItems]
  exact ht

/-- Members begin with a key unless there are none. -/
theorem readMembers_true (ht : t ≠ .closeObject) (ts : List Lexeme) :
    readMembers true (t :: ts) = readMembersFrom (t :: ts) := by
  rw [readMembers]
  exact ht

/-- More members follow a comma. -/
theorem readMembers_comma (ht : t ≠ .closeObject) (ts : List Lexeme) :
    readMembers false (.comma :: t :: ts) = (readMembersFrom (t :: ts)).after .comma := by
  rw [readMembers]
  exact ht

/-- What is read of lexemes that spell something, whatever more there is. -/
def Tree.IsReadFrom (ts : List Lexeme) : Tree → Prop
  | .value d => ∀ more, ∃ h, readValue (ts ++ more) = (d, some ⟨more, h⟩)
  | .items ds => ∀ more, ∃ h, readItemsFrom (ts ++ .closeArray :: more) =
    ⟨ds, none, some ⟨more, h⟩⟩
  | .members ms => ∀ more, ∃ h, readMembersFrom (ts ++ .closeObject :: more) =
    ⟨ms, none, some ⟨more, h⟩⟩

/-- **What lexemes spell is read from them.** -/
theorem Spells.isReadFrom {tree : Tree} (h : Spells tree ts) : tree.IsReadFrom ts := by
  induction h with
  | null | bool | number | string =>
    intro more
    refine ⟨Nat.lt_succ_self _, ?_⟩
    change readValue (_ :: more) = _
    rw [readValue]
    rfl
  | emptyArray =>
    intro more
    refine ⟨Nat.lt_succ_of_lt (Nat.lt_succ_self _), ?_⟩
    change readValue (.openArray :: .closeArray :: more) = _
    rw [readValue, readItems]
    rfl
  | @array items ts h ih =>
    intro more
    have happend : .openArray :: (ts ++ [.closeArray]) ++ more =
        .openArray :: (ts ++ .closeArray :: more) := by simp
    rw [happend]
    obtain ⟨hle, hitems⟩ := ih more
    refine ⟨Nat.lt_succ_of_lt hle, ?_⟩
    obtain ⟨t, us, rfl, ht, -⟩ := h.exists_cons
    rw [readValue]
    dsimp only [List.cons_append] at hitems ⊢
    rw [readItems_true ht, hitems]
    rfl
  | emptyObject =>
    intro more
    refine ⟨Nat.lt_succ_of_lt (Nat.lt_succ_self _), ?_⟩
    change readValue (.openObject :: .closeObject :: more) = _
    rw [readValue, readMembers]
    rfl
  | @object members ts h ih =>
    intro more
    have happend : .openObject :: (ts ++ [.closeObject]) ++ more =
        .openObject :: (ts ++ .closeObject :: more) := by
      simp
    rw [happend]
    obtain ⟨hle, hmembers⟩ := ih more
    refine ⟨Nat.lt_succ_of_lt hle, ?_⟩
    rw [readValue]
    obtain ⟨t, us, hts, -, ht⟩ := h.exists_cons
    subst hts
    dsimp only [List.cons_append] at hmembers ⊢
    rw [readMembers_true ht, hmembers]
    rfl
  | lastItem h ih =>
    intro more
    obtain ⟨hle, hvalue⟩ := ih (.closeArray :: more)
    refine ⟨Nat.lt_trans (Nat.lt_succ_self _) hle, ?_⟩
    rw [readItemsFrom, hvalue]
    dsimp only
    rw [readItems]
    rfl
  | @item d items ts us h hs ih ihs =>
    intro more
    have happend : ts ++ .comma :: us ++ .closeArray :: more =
        ts ++ .comma :: (us ++ .closeArray :: more) := by simp
    rw [happend]
    obtain ⟨hle, hvalue⟩ := ih (.comma :: (us ++ .closeArray :: more))
    obtain ⟨hle', hitems⟩ := ihs more
    refine ⟨Nat.lt_trans (Nat.lt_succ_of_lt hle') hle, ?_⟩
    rw [readItemsFrom, hvalue]
    dsimp only
    obtain ⟨t, us, rfl, ht, -⟩ := hs.exists_cons
    dsimp only [List.cons_append] at hitems ⊢
    rw [readItems_comma ht, hitems]
    rfl
  | lastMember h ih =>
    intro more
    obtain ⟨hle, hvalue⟩ := ih (.closeObject :: more)
    refine ⟨Nat.lt_succ_of_lt (Nat.lt_succ_of_lt (Nat.lt_trans (Nat.lt_succ_self _) hle)), ?_⟩
    change readMembersFrom (.string _ :: .colon :: (_ ++ .closeObject :: more)) = _
    rw [readMembersFrom, hvalue]
    dsimp only
    rw [readMembers]
    rfl
  | @member key d members ts us h hs ih ihs =>
    intro more
    have happend : .string key :: .colon :: (ts ++ .comma :: us) ++ .closeObject :: more =
        .string key :: .colon :: (ts ++ .comma :: (us ++ .closeObject :: more)) := by simp
    rw [happend]
    obtain ⟨hle, hvalue⟩ := ih (.comma :: (us ++ .closeObject :: more))
    obtain ⟨hle', hmembers⟩ := ihs more
    refine ⟨Nat.lt_succ_of_lt (Nat.lt_succ_of_lt (Nat.lt_trans (Nat.lt_succ_of_lt hle') hle)), ?_⟩
    rw [readMembersFrom, hvalue]
    dsimp only
    obtain ⟨t, us, rfl, -, ht⟩ := hs.exists_cons
    dsimp only [List.cons_append] at hmembers ⊢
    rw [readMembers_comma ht, hmembers]
    rfl

/-! ## What is read is spelt -/

/-- An array or object whose end is passed over has no fault there. -/
theorem eq_none_of_skipClosing {stop : Option Stop} {u : Unit} (h : skipClosing stop = .ok u) :
    stop = none := by
  cases stop with
  | none => rfl
  | some s => cases h

/-- Where items come to the end of their array there are none, or more of them, after a comma
unless they are the first. -/
theorem readItems_of_stop {first : Bool} (h : (readItems first ts).stop = none) :
    (∃ more, ts = .closeArray :: more) ∨ (first = true ∧ readItems first ts = readItemsFrom ts) ∨
      ∃ us, first = false ∧ ts = .comma :: us ∧ readItems false (.comma :: us) =
        (readItemsFrom us).after .comma := by
  unfold readItems at h
  split at h
  case h_1 => cases h
  case h_2 t ts =>
    split at h
    case h_1 => exact .inl ⟨ts, rfl⟩
    case h_2 ht => exact .inr (.inl ⟨rfl, readItems_true ht ts⟩)
    case h_3 =>
      split at h
      case h_1 | h_2 => cases h
      case h_3 t ts ht => exact .inr (.inr ⟨t :: ts, rfl, rfl, readItems_comma ht ts⟩)
    case h_4 => cases h

/-- Where members come to the end of their object there are none, or more of them, after a comma
unless they are the first. -/
theorem readMembers_of_stop {first : Bool} (h : (readMembers first ts).stop = none) :
    (∃ more, ts = .closeObject :: more) ∨
    (first = true ∧ readMembers first ts = readMembersFrom ts) ∨
      ∃ us, first = false ∧ ts = .comma :: us ∧
        readMembers false (.comma :: us) = (readMembersFrom us).after .comma := by
  unfold readMembers at h
  split at h
  case h_1 => cases h
  case h_2 t ts =>
    split at h
    case h_1 => exact .inl ⟨ts, rfl⟩
    case h_2 ht => exact .inr (.inl ⟨rfl, readMembers_true ht ts⟩)
    case h_3 =>
      split at h
      case h_1 | h_2 => cases h
      case h_3 t ts ht => exact .inr (.inr ⟨t :: ts, rfl, rfl, readMembers_comma ht ts⟩)
    case h_4 => cases h

/-- What is left to read comes after lexemes that spell something, and after those that close
it. -/
def IsLeftAfter (tree : Tree) (close : List Lexeme) (ts : List Lexeme)
    (rest? : Option (Rest ts)) : Prop :=
  ∃ used more h, ts = used ++ (close ++ more) ∧ rest? = some ⟨more, h⟩ ∧ Spells tree used

-- The recursion is on `n`: the length of the lexemes is not seen any more where these are taken
-- apart.
mutual

/-- **A draft that can be passed over is spelt by the lexemes that it is read from.** -/
theorem isLeftAfter_readValue (n : Nat) (ts : List Lexeme) (hn : ts.length = n)
    (h : (readValue ts).1.skip = .ok ()) :
    IsLeftAfter (.value (readValue ts).1) [] ts (readValue ts).2 := by
  unfold readValue at h ⊢
  split at h
  case h_1 => cases h
  case h_2 t ts =>
    split at h
    case h_1 => exact ⟨[.null], ts, Nat.lt_succ_self _, rfl, rfl, .null⟩
    case h_2 b => exact ⟨[.bool b], ts, Nat.lt_succ_self _, rfl, rfl, .bool b⟩
    case h_3 n => exact ⟨[.number n], ts, Nat.lt_succ_self _, rfl, rfl, .number n⟩
    case h_4 s => exact ⟨[.string s], ts, Nat.lt_succ_self _, rfl, rfl, .string s⟩
    case h_5 =>
      obtain ⟨_, hparts, hstop⟩ := exists_of_bind_eq_ok h
      replace hstop := eq_none_of_skipClosing hstop
      dsimp only
      rw [hstop]
      rcases readItems_of_stop hstop with ⟨more, rfl⟩ | ⟨-, hitems⟩ | ⟨_, hfirst, -⟩
      · rw [readItems]
        exact ⟨_, more, Nat.lt_succ_of_lt (Nat.lt_succ_self _), rfl, rfl, .emptyArray⟩
      · rw [hitems] at hparts hstop ⊢
        obtain ⟨used, more, hle, hts, hrest, hused⟩ :=
          isLeftAfter_readItemsFrom _ ts rfl ⟨hstop, hparts⟩
        refine ⟨.openArray :: (used ++ [.closeArray]), more, Nat.lt_succ_of_lt hle, ?_, ?_,
          .array hused⟩
        · rw [hts]
          simp
        · rw [hrest]
          rfl
      · cases hfirst
    case h_6 =>
      obtain ⟨_, hparts, hstop⟩ := exists_of_bind_eq_ok h
      replace hstop := eq_none_of_skipClosing hstop
      dsimp only
      rw [hstop]
      rcases readMembers_of_stop hstop with ⟨more, rfl⟩ | ⟨-, hmembers⟩ | ⟨_, hfirst, -⟩
      · rw [readMembers]
        exact ⟨_, more, Nat.lt_succ_of_lt (Nat.lt_succ_self _), rfl, rfl, .emptyObject⟩
      · rw [hmembers] at hparts hstop ⊢
        obtain ⟨used, more, hle, hts, hrest, hused⟩ :=
          isLeftAfter_readMembersFrom _ ts rfl ⟨hstop, hparts⟩
        refine ⟨.openObject :: (used ++ [.closeObject]), more, Nat.lt_succ_of_lt hle, ?_, ?_,
          .object hused⟩
        · rw [hts]
          simp
        · rw [hrest]
          rfl
      · cases hfirst
    case h_7 | h_8 | h_9 => cases h
termination_by 3 * n
decreasing_by all_goals simp only [List.length_cons] at hn; omega

/-- So are items, up to the end of their array. -/
theorem isLeftAfter_readItemsFrom (n : Nat) (ts : List Lexeme) (hn : ts.length = n)
    (h : (readItemsFrom ts).stop = none ∧ skipItems (readItemsFrom ts).parts = .ok ()) :
    IsLeftAfter (.items (readItemsFrom ts).parts) [.closeArray] ts (readItemsFrom ts).rest? := by
  unfold readItemsFrom at h ⊢
  obtain ⟨hstop, hparts⟩ := h
  have hvalue := isLeftAfter_readValue n ts hn
  generalize readValue ts = read at hvalue hstop hparts ⊢
  obtain ⟨d, rest?⟩ := read
  cases rest? with
  | none =>
    obtain ⟨_, hd, -⟩ := exists_of_bind_eq_ok hparts
    obtain ⟨_, _, _, _, ⟨⟩, _⟩ := hvalue hd
  | some rest =>
    obtain ⟨_, hd, hparts⟩ := exists_of_bind_eq_ok hparts
    obtain ⟨used, more, hle, rfl, ⟨⟩, hused⟩ := hvalue hd
    dsimp only at hstop hparts ⊢
    rcases readItems_of_stop hstop with ⟨more', rfl⟩ | ⟨hfirst, -⟩ | ⟨us, -, rfl, hitems⟩
    · rw [readItems]
      exact ⟨used, more', _, rfl, rfl, .lastItem hused⟩
    · cases hfirst
    · rw [hitems] at hparts hstop ⊢
      obtain ⟨used', more', hle', rfl, hrest, hused'⟩ :=
        isLeftAfter_readItemsFrom _ us rfl ⟨hstop, hparts⟩
      refine ⟨used ++ .comma :: used', more', ?_, ?_, ?_, .item hused hused'⟩
      · simp only [List.length_append, List.length_cons]
        omega
      · simp
      · change ((readItemsFrom _).rest?.map _).map _ = _
        rw [hrest]
        rfl
termination_by 3 * n + 1
decreasing_by
  · omega
  · simp only [List.nil_append, List.length_append, List.length_cons] at hn ⊢
    omega

/-- So are members, up to the end of their object. -/
theorem isLeftAfter_readMembersFrom (n : Nat) (ts : List Lexeme) (hn : ts.length = n)
    (h : (readMembersFrom ts).stop = none ∧ skipMembers (readMembersFrom ts).parts = .ok ()) :
    IsLeftAfter (.members (readMembersFrom ts).parts) [.closeObject] ts
      (readMembersFrom ts).rest? := by
  unfold readMembersFrom at h ⊢
  split at h
  case h_1 key ts =>
    obtain ⟨hstop, hparts⟩ := h
    have hvalue := isLeftAfter_readValue _ ts rfl
    generalize readValue ts = read at hvalue hstop hparts ⊢
    obtain ⟨d, rest?⟩ := read
    cases rest? with
    | none =>
      obtain ⟨_, hd, -⟩ := exists_of_bind_eq_ok hparts
      obtain ⟨_, _, _, _, ⟨⟩, _⟩ := hvalue hd
    | some rest =>
      obtain ⟨_, hd, hparts⟩ := exists_of_bind_eq_ok hparts
      obtain ⟨used, more, hle, rfl, ⟨⟩, hused⟩ := hvalue hd
      dsimp only at hstop hparts ⊢
      rcases readMembers_of_stop hstop with ⟨more', rfl⟩ | ⟨hfirst, -⟩ | ⟨us, -, rfl, hmembers⟩
      · rw [readMembers]
        exact ⟨_, more', _, rfl, rfl, .lastMember hused⟩
      · cases hfirst
      · rw [hmembers] at hparts hstop ⊢
        obtain ⟨used', more', hle', rfl, hrest, hused'⟩ :=
          isLeftAfter_readMembersFrom _ us rfl ⟨hstop, hparts⟩
        refine ⟨.string key :: .colon :: (used ++ .comma :: used'), more', ?_, ?_, ?_,
          .member hused hused'⟩
        · simp only [List.length_append, List.length_cons]
          omega
        · simp
        · change ((readMembersFrom _).rest?.map _).map _ = _
          rw [hrest]
          rfl
  case h_2 | h_3 => cases h.2
  case h_4 | h_5 => cases h.1
termination_by 3 * n + 1
decreasing_by
  · simp only [List.length_cons] at hn
    omega
  · simp only [List.nil_append, List.length_append, List.length_cons] at hn ⊢
    omega

end

end Dossier.Json
