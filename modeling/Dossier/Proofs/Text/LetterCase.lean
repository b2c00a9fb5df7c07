import Mathlib.Data.List.Infix
import Dossier.Text.LetterCase

/-!
# Lower case and parts of texts

The lower case of a text is made character by character, and only the form of a capital sigma
depends on what stands around it. So the lower case of a part of a text need not be a part of the
lower case of the text: a sigma at the end of the part may stand inside a word of the text. It is
so for all texts that a part can stand in if, and only if, each sigma of the part has beside it, in
the part, what says which form it takes (`settlesSigmas_iff`).
-/

namespace Dossier.Text

variable {before before' after after' xs ys term : List Char}

/-! ## What stands beside a sigma -/

/-- The first character that is not passed over in the search for one that has a case. -/
def nearest? (cs : List Char) : Option Char := cs.find? (!isCaseIgnorable ·)

/-- The search looks at what follows only if nothing is found before. -/
theorem nearest?_append (xs ys : List Char) :
    nearest? (xs ++ ys) = (nearest? xs).or (nearest? ys) :=
  List.find?_append

/-- A text starts cased if the first character not passed over has a case. -/
theorem startsCased_eq (cs : List Char) : startsCased cs = (nearest? cs).any isCased := by
  rw [startsCased, nearest?]
  induction cs with
  | nil => rfl
  | cons c cs ih =>
    rw [List.dropWhile_cons, List.find?_cons]
    cases isCaseIgnorable c
    case false => rfl
    case true => exact ih

/-- A capital sigma is not passed over and has a case. -/
theorem nearest?_sigma (cs : List Char) : nearest? ('Σ' :: cs) = some 'Σ' :=
  List.find?_cons_of_pos (by decide +kernel)

/-- Nothing is passed over where there is a capital sigma. -/
theorem sigma_not_mem_of_nearest? (h : nearest? xs = none) : 'Σ' ∉ xs := by
  intro hmem
  have hignorable := List.find?_eq_none.1 h 'Σ' hmem
  exact hignorable (by decide +kernel)

/-- Whether a capital sigma ends a word, where `before` stands before it, reversed, and `after`
after it. -/
def endsWord (before after : List Char) : Bool := startsCased before && !startsCased after

/-- Whether the first character not passed over has no case. -/
def startsUncased (cs : List Char) : Bool := (nearest? cs).any (!isCased ·)

/-- What stands beside a capital sigma says whether it ends a word, whatever stands further away: a
letter follows, or there is no letter before it, or there is one and none follows. -/
def Settles (before after : List Char) : Prop :=
  startsCased after = true ∨ startsUncased before = true ∨
    startsCased before = true ∧ startsUncased after = true

/-- What stands further away is of no account for a sigma that is settled. -/
theorem Settles.endsWord_append (h : Settles before after) (outer outer' : List Char) :
    endsWord (before ++ outer) (after ++ outer') = endsWord before after := by
  simp only [Settles, startsUncased, startsCased_eq] at h
  simp only [endsWord, startsCased_eq, nearest?_append]
  cases hbefore : nearest? before <;> cases hafter : nearest? after <;> simp_all

/-- A sigma is not settled if only what is passed over stands before it and no letter after it, or
a letter stands before it and only what is passed over after it. -/
theorem cases_of_not_settles (h : ¬Settles before after) :
    nearest? before = none ∧ startsCased after = false ∨
    startsCased before = true ∧ nearest? after = none := by
  simp only [Settles, startsUncased, startsCased_eq, not_or, not_and] at h ⊢
  obtain ⟨hafter, hbefore, hboth⟩ := h
  cases hnearest : nearest? before with
  | none => exact .inl ⟨rfl, Bool.eq_false_iff.2 hafter⟩
  | some b =>
    have hb : isCased b = true := by simpa [hnearest] using hbefore
    refine .inr ⟨hb, ?_⟩
    cases hnext : nearest? after with
    | none => rfl
    | some a => simp_all

/-! ## Lower case in context -/

/-- The lower case of a character between `before`, which is kept reversed, and `after`. -/
def lowerBetween (before : List Char) (c : Char) (after : List Char) : List Char :=
  if c == 'Σ' then [if endsWord before after then 'ς' else 'σ'] else lowerChar c

/-- The lower case of a text between `before`, which is kept reversed, and `after`. -/
def lowerWithin (before : List Char) : List Char → (after : List Char) → List Char
  | [], _ => []
  | c :: cs, after => lowerBetween before c (cs ++ after) ++ lowerWithin (c :: before) cs after

/-- The lower case of a part of a text is made in the context of the rest. -/
theorem lowerWithin_append (before xs ys after : List Char) : lowerWithin before (xs ++ ys) after =
    lowerWithin before xs (ys ++ after) ++ lowerWithin (xs.reverse ++ before) ys after := by
  induction xs generalizing before with
  | nil => rfl
  | cons c xs ih =>
    rw [List.cons_append, lowerWithin, ih, lowerWithin, List.append_assoc, List.append_assoc,
      List.reverse_cons, List.append_assoc, List.singleton_append]

/-- The lower case of a text is made in the context of nothing more. -/
theorem lowerAfter_eq (before xs : List Char) :
    lowerAfter before xs = lowerWithin before xs [] := by
  induction xs generalizing before with
  | nil => rfl
  | cons c xs ih =>
    rw [lowerAfter, ih, lowerWithin, List.append_nil]
    rfl

/-- In contexts in which each of its sigmas has the same form, a text has the same lower case. -/
theorem lowerWithin_congr (h : ∀ x y, xs = x ++ 'Σ' :: y →
      endsWord (x.reverse ++ before) (y ++ after) =
        endsWord (x.reverse ++ before') (y ++ after')) :
    lowerWithin before xs after = lowerWithin before' xs after' := by
  induction xs generalizing before before' with
  | nil => rfl
  | cons c xs ih =>
    have hfirst : lowerBetween before c (xs ++ after) = lowerBetween before' c (xs ++ after') := by
      unfold lowerBetween
      split
      case isTrue hc =>
        have hsame := h [] xs (by rw [beq_iff_eq.1 hc]; rfl)
        rw [List.reverse_nil, List.nil_append, List.nil_append] at hsame
        rw [hsame]
      case isFalse => rfl
    have hrest : lowerWithin (c :: before) xs after = lowerWithin (c :: before') xs after' := by
      refine ih fun x y hxs => ?_
      have hsame := h (c :: x) y (by rw [hxs]; rfl)
      rwa [List.reverse_cons, List.append_assoc, List.append_assoc] at hsame
    rw [lowerWithin, lowerWithin, hfirst, hrest]

/-! ## Parts of texts -/

/-- Each capital sigma of a text has beside it in the text what says whether it ends a word. -/
def SettlesSigmas (term : List Char) : Prop :=
  ∀ x y, term = x ++ 'Σ' :: y → Settles x.reverse y

/-- A text without a capital sigma has none that is not settled. -/
theorem settlesSigmas_of_not_mem (h : 'Σ' ∉ term) : SettlesSigmas term :=
  fun x y hterm => absurd (hterm ▸ List.mem_append_right x (.head y)) h

/-- The lower case of a text whose sigmas are settled is the same in every context. -/
theorem SettlesSigmas.lowerWithin_eq (h : SettlesSigmas term) (before after : List Char) :
    lowerWithin before term after = lowerAfter [] term := by
  rw [lowerAfter_eq]
  refine lowerWithin_congr fun x y hterm => ?_
  rw [List.append_nil, List.append_nil]
  exact (h x y hterm).endsWord_append before after

/-- The sigmas before another have the same form whatever follows that one, and those after it
whatever precedes it. So in a context that touches only that one, it alone changes. -/
theorem lowerWithin_sigma {x y : List Char} (hbefore : before = [] ∨ nearest? x.reverse = none)
    (hafter : after = [] ∨ nearest? y = none) : lowerWithin before (x ++ 'Σ' :: y) after =
      lowerWithin [] x ('Σ' :: y) ++
        [if endsWord (x.reverse ++ before) (y ++ after) then 'ς' else 'σ'] ++
        lowerWithin ('Σ' :: x.reverse) y [] := by
  have hx : lowerWithin before x ('Σ' :: y ++ after) = lowerWithin [] x ('Σ' :: y) := by
    refine lowerWithin_congr fun x₁ x₂ hx => ?_
    rcases hbefore with rfl | hnone
    · simp only [endsWord, startsCased_eq, nearest?_append, List.cons_append, nearest?_sigma]
    · refine absurd ?_ (sigma_not_mem_of_nearest? hnone)
      rw [hx, List.mem_reverse]
      exact List.mem_append_right x₁ (.head x₂)
  have hy : lowerWithin ('Σ' :: (x.reverse ++ before)) y after =
      lowerWithin ('Σ' :: x.reverse) y [] := by
    refine lowerWithin_congr fun y₁ y₂ hy => ?_
    rcases hafter with rfl | hnone
    · simp only [endsWord, startsCased_eq, nearest?_append, nearest?_sigma]
    · refine absurd ?_ (sigma_not_mem_of_nearest? hnone)
      rw [hy]
      exact List.mem_append_right y₁ (.head y₂)
  rw [lowerWithin_append, lowerWithin, hx, hy, List.append_assoc]
  rfl

/-- A part with one character more of a kind than its place in a text is no part of the text. -/
theorem not_infix_of_not_mem {f g : Char} (outer outer' : List Char) (hne : f ≠ g)
    (houter : f ∉ outer)
    (houter' : f ∉ outer') : ¬xs ++ [f] ++ ys <:+: outer ++ (xs ++ [g] ++ ys) ++ outer' := by
  intro hinfix
  have hcount := hinfix.sublist.count_le f
  simp only [List.count_append, List.count_singleton, beq_self_eq_true, if_true,
    beq_eq_false_iff_ne.2 hne.symm, Bool.false_eq_true, if_false,
    List.count_eq_zero_of_not_mem houter, List.count_eq_zero_of_not_mem houter'] at hcount
  omega

/-- A sigma that is not settled has another form in some text than in its part by itself. -/
theorem exists_text_of_not_settlesSigmas (h : ¬SettlesSigmas term) :
    ∃ text, term <:+: text ∧ ¬lowerAfter [] term <:+: lowerAfter [] text := by
  simp only [SettlesSigmas, not_forall] at h
  obtain ⟨x, y, rfl, hnot⟩ := h
  have hterm := lowerWithin_sigma (x := x) (y := y) (.inl rfl) (.inl rfl)
  rw [List.append_nil, List.append_nil] at hterm
  have hletter (before after : List Char) : lowerBetween before 'A' after = ['a'] := rfl
  rw [lowerAfter_eq, hterm]
  rcases cases_of_not_settles hnot with ⟨hx, hy⟩ | ⟨hx, hy⟩
  case inl =>
    -- By itself the sigma does not end a word. After a letter it does.
    refine ⟨'A' :: (x ++ 'Σ' :: y), (List.suffix_cons _ _).isInfix, ?_⟩
    have hends : endsWord (x.reverse ++ ['A']) (y ++ []) = true := by
      have hcased : startsCased (x.reverse ++ ['A']) = true := by
        rw [startsCased_eq, nearest?_append, hx]
        decide +kernel
      rw [endsWord, hcased, List.append_nil, hy]
      rfl
    have halone : endsWord x.reverse y = false := by
      rw [endsWord, startsCased_eq, hx]
      rfl
    rw [lowerAfter_eq, lowerWithin, hletter, lowerWithin_sigma (.inr hx) (.inl rfl), hends, halone]
    simpa using not_infix_of_not_mem (f := 'σ') (g := 'ς') ['a'] [] (by decide) (by decide)
      (by decide)
  case inr =>
    -- By itself the sigma ends a word. Before a letter it does not.
    refine ⟨x ++ 'Σ' :: y ++ ['A'], (List.prefix_append _ _).isInfix, ?_⟩
    have hends : endsWord (x.reverse ++ []) (y ++ ['A']) = false := by
      have hcased : startsCased (y ++ ['A']) = true := by
        rw [startsCased_eq, nearest?_append, hy]
        decide +kernel
      rw [endsWord, hcased, Bool.not_true, Bool.and_false]
    have halone : endsWord x.reverse y = true := by
      rw [endsWord, hx, startsCased_eq, hy]
      rfl
    rw [lowerAfter_eq, lowerWithin_append, List.append_nil, lowerWithin, hletter, lowerWithin,
      lowerWithin_sigma (.inl rfl) (.inr hy), hends, halone]
    simpa using not_infix_of_not_mem (f := 'ς') (g := 'σ') [] ['a'] (by decide) (by decide)
      (by decide)

/-- **Lower case keeps parts of texts exactly if it settles their sigmas.** -/
theorem settlesSigmas_iff :
    SettlesSigmas term ↔ ∀ text, term <:+: text → lowerAfter [] term <:+: lowerAfter [] text := by
  constructor
  · rintro h text ⟨front, back, rfl⟩
    refine ⟨lowerWithin [] front (term ++ back), lowerWithin (front ++ term).reverse back [], ?_⟩
    rw [lowerAfter_eq [] (front ++ term ++ back), List.append_assoc front, lowerWithin_append,
      lowerWithin_append, h.lowerWithin_eq]
    simp
  · intro h
    by_contra hnot
    obtain ⟨text, hpart, hlower⟩ := exists_text_of_not_settlesSigmas hnot
    exact hlower (h text hpart)

end Dossier.Text
