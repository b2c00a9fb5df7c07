import Dossier.Proofs.Json.Grammar
import Dossier.Proofs.Json.Lexeme

/-!
# How lexemes are spelt

Each reader of the parts of lexemes reads what the grammar calls so, and nothing else. Since a
reader takes as many characters as it can, a number is read as a whole only where what follows
could not be more of it (`EndsNumber`). So the lexemes of a text are those that it spells
(`exists_of_lexemes_eq_cons`, `IsSpelt.lexemes_append`).
-/

namespace Dossier.Json

open Dossier.Text (Tail)
open Grammar

variable {cs ds rest word : List Char} {c : Char}

/-- A reader reads something and leaves the rest. -/
def Leaves {ε α : Type} (read : Except ε (α × Tail cs)) (rest : List Char) : Prop :=
  ∃ a h, read = .ok (a, ⟨rest, h⟩)

/-- What is read after a character leaves the same. -/
theorem Leaves.map_cons {ε α β : Type} {read : Except ε (α × Tail cs)} (h : Leaves read rest)
    (f : α → β) (c : Char) : Leaves (read.map fun (a, tail) => (f a, tail.cons c)) rest := by
  obtain ⟨a, h, rfl⟩ := h
  exact ⟨f a, _, rfl⟩

/-! ## Digits -/

/-- What stands before the rest are digits. -/
theorem spanDigits_append (cs : List Char) :
    cs = (spanDigits cs).1 ++ (spanDigits cs).2.val ∧
    ∀ d ∈ (spanDigits cs).1, d.isDigit = true := by
  induction cs with
  | nil => simp [spanDigits, Tail.all]
  | cons c cs ih =>
    unfold spanDigits
    split
    case isTrue hc => exact ⟨congrArg (c :: ·) ih.1, List.forall_mem_cons.2 ⟨hc, ih.2⟩⟩
    case isFalse => exact ⟨rfl, List.forall_mem_nil _⟩

/-- What follows does not begin with a digit. -/
def EndsDigits (rest : List Char) : Prop := ∀ c ∈ rest.head?, c.isDigit = false

/-- Digits are read up to where no digit follows. -/
theorem spanDigits_of_endsDigits (hds : ∀ d ∈ ds, d.isDigit = true) (hrest : EndsDigits rest) :
    ∃ h, spanDigits (ds ++ rest) = (ds, ⟨rest, h⟩) := by
  induction ds with
  | nil =>
    refine ⟨Nat.le_refl _, ?_⟩
    change spanDigits rest = ([], .all rest)
    cases rest with
    | nil => rw [spanDigits]
    | cons c rest => rw [spanDigits, if_neg (Bool.eq_false_iff.1 (hrest c rfl))]
  | cons d ds ih =>
    obtain ⟨hd, hds⟩ := List.forall_mem_cons.1 hds
    obtain ⟨h, hdigits⟩ := ih hds
    refine ⟨Nat.le_succ_of_le h, ?_⟩
    change spanDigits (d :: (ds ++ rest)) = _
    rw [spanDigits, if_pos hd, hdigits]
    rfl

/-! ## Numbers -/

/-- What follows could not be more of a number. -/
def EndsNumber (rest : List Char) : Prop :=
  ∀ c ∈ rest.head?, c.isDigit = false ∧ c ≠ '.' ∧ c ≠ 'e' ∧ c ≠ 'E'

/-- What is read as a fraction is one. -/
theorem exists_of_readFraction {a : Option (List Char)} {tail : Tail cs}
    (h : readFraction cs = .ok (a, tail)) :
    ∃ fraction, IsFraction fraction ∧ cs = fraction ++ tail.val := by
  unfold readFraction at h
  split at h
  case h_1 cs =>
    obtain ⟨hcs, hdigits⟩ := spanDigits_append cs
    generalize spanDigits cs = read at h hcs hdigits
    obtain ⟨digits, tail'⟩ := read
    dsimp only at h
    split at h
    case isTrue => cases h
    case isFalse hne =>
      cases h
      exact ⟨'.' :: digits, .digits ⟨mt List.isEmpty_iff.2 hne, hdigits⟩, congrArg ('.' :: ·) hcs⟩
  case h_2 =>
    cases h
    exact ⟨[], .none, rfl⟩

/-- A fraction is read. -/
theorem leaves_readFraction (h : IsFraction cs) (hdigits : EndsDigits rest)
    (hpoint : ∀ c ∈ rest.head?, c ≠ '.') : Leaves (readFraction (cs ++ rest)) rest := by
  cases h with
  | none =>
    refine ⟨none, Nat.le_refl _, ?_⟩
    change readFraction rest = .ok (none, .all rest)
    unfold readFraction
    split
    case h_1 => exact absurd rfl (hpoint _ rfl)
    case h_2 => rfl
  | @digits ds hds =>
    obtain ⟨h, hspan⟩ := spanDigits_of_endsDigits hds.2 hdigits
    refine ⟨some ds, Nat.le_succ_of_le h, ?_⟩
    change readFraction ('.' :: (ds ++ rest)) = _
    rw [readFraction, hspan]
    exact if_neg (mt List.isEmpty_iff.1 hds.1)

/-- What is read as the digits of an exponent are some. -/
theorem exists_of_readExponentDigits {down : Bool} {a : Bool × List Char} {tail : Tail cs}
    (h : readExponentDigits down cs = .ok (a, tail)) :
    ∃ digits, AreDigits digits ∧ cs = digits ++ tail.val := by
  unfold readExponentDigits at h
  obtain ⟨hcs, hdigits⟩ := spanDigits_append cs
  generalize spanDigits cs = read at h hcs hdigits
  obtain ⟨digits, tail'⟩ := read
  dsimp only at h
  split at h
  case isTrue => cases h
  case isFalse hne =>
    cases h
    exact ⟨digits, ⟨mt List.isEmpty_iff.2 hne, hdigits⟩, hcs⟩

/-- The digits of an exponent are read. -/
theorem leaves_readExponentDigits (down : Bool) (h : AreDigits ds) (hrest : EndsDigits rest) :
    Leaves (readExponentDigits down (ds ++ rest)) rest := by
  obtain ⟨hle, hspan⟩ := spanDigits_of_endsDigits h.2 hrest
  refine ⟨(down, ds), hle, ?_⟩
  rw [readExponentDigits, hspan]
  exact if_neg (mt List.isEmpty_iff.1 h.1)

/-- What is read as an exponent is one. -/
theorem exists_of_readExponent {a : Option (Bool × List Char)} {tail : Tail cs}
    (h : readExponent cs = .ok (a, tail)) :
    ∃ exponent, IsExponent exponent ∧ cs = exponent ++ tail.val := by
  unfold readExponent at h
  split at h
  case h_1 =>
    cases h
    exact ⟨[], .none, rfl⟩
  case h_2 e cs =>
    split at h
    case isFalse =>
      cases h
      exact ⟨[], .none, rfl⟩
    case isTrue he =>
      have he : e = 'e' ∨ e = 'E' := by simpa using he
      obtain ⟨⟨x, tail'⟩, hsigned, ⟨⟩⟩ := exists_of_map_eq_ok h
      unfold readSignedExponent at hsigned
      split at hsigned
      case h_1 cs =>
        obtain ⟨⟨y, tail'⟩, hdigits, ⟨⟩⟩ := exists_of_map_eq_ok hsigned
        obtain ⟨digits, hds, hcs⟩ := exists_of_readExponentDigits hdigits
        exact ⟨_, .signed he (.inr rfl) hds, congrArg (e :: '-' :: ·) hcs⟩
      case h_2 cs =>
        obtain ⟨⟨y, tail'⟩, hdigits, ⟨⟩⟩ := exists_of_map_eq_ok hsigned
        obtain ⟨digits, hds, hcs⟩ := exists_of_readExponentDigits hdigits
        exact ⟨_, .signed he (.inl rfl) hds, congrArg (e :: '+' :: ·) hcs⟩
      case h_3 =>
        obtain ⟨digits, hds, hcs⟩ := exists_of_readExponentDigits hsigned
        exact ⟨e :: digits, .digits he hds, congrArg (e :: ·) hcs⟩

/-- An exponent is read. -/
theorem leaves_readExponent (h : IsExponent cs) (hrest : EndsNumber rest) :
    Leaves (readExponent (cs ++ rest)) rest := by
  have hend : EndsDigits rest := fun c hc => (hrest c hc).1
  cases h with
  | none =>
    cases rest with
    | nil => exact ⟨none, Nat.le_refl _, rfl⟩
    | cons c rest =>
      obtain ⟨-, -, he, hE⟩ := hrest c rfl
      refine ⟨none, Nat.le_refl _, ?_⟩
      change readExponent (c :: rest) = .ok (none, .all _)
      rw [readExponent, if_neg]
      simp [he, hE]
  | @digits e ds he hds =>
    have hsign : readSignedExponent (ds ++ rest) = readExponentDigits false (ds ++ rest) := by
      obtain ⟨hne, hdigits⟩ := hds
      obtain ⟨d, ds, rfl⟩ := List.exists_cons_of_ne_nil hne
      have hne {c : Char} (hc : c.isDigit = false) : d ≠ c := by
        rintro rfl
        rw [hdigits d (.head _)] at hc
        cases hc
      exact readSignedExponent_cons (hne (by decide)) (hne (by decide)) _
    change Leaves (readExponent (e :: (ds ++ rest))) rest
    rw [readExponent, if_pos (by simpa using he), hsign]
    exact (leaves_readExponentDigits false hds hend).map_cons some e
  | @signed e sign ds he hsign hds =>
    change Leaves (readExponent (e :: sign :: (ds ++ rest))) rest
    rw [readExponent, if_pos (by simpa using he)]
    refine Leaves.map_cons ?_ some e
    rcases hsign with rfl | rfl
    · exact (leaves_readExponentDigits false hds hend).map_cons id '+'
    · exact (leaves_readExponentDigits true hds hend).map_cons id '-'

/-- What is read as a number without sign is one. -/
theorem exists_of_readNumber {negative : Bool} {t : Lexeme} {tail : Tail cs}
    (hc : c.isDigit = true) (h : readNumber negative c cs = .ok (t, tail)) :
    ∃ whole fraction exponent, IsWhole whole ∧ IsFraction fraction ∧ IsExponent exponent ∧
      c :: cs = whole ++ (fraction ++ exponent) ++ tail.val ∧
      ∃ n, t = .number n := by
  unfold readNumber at h
  obtain ⟨hcs, hdigits⟩ := spanDigits_append cs
  generalize spanDigits cs = read at h hcs hdigits
  obtain ⟨more, tail₀⟩ := read
  dsimp only at h
  split at h
  case isTrue => cases h
  case isFalse hzero =>
    obtain ⟨⟨a, tail₁⟩, hfraction, h⟩ := exists_of_bind_eq_ok h
    obtain ⟨⟨b, tail₂⟩, hexponent, h⟩ := exists_of_bind_eq_ok h
    cases h
    obtain ⟨fraction, hf, htail₀⟩ := exists_of_readFraction hfraction
    obtain ⟨exponent, he, htail₁⟩ := exists_of_readExponent hexponent
    have hwhole : IsWhole (c :: more) := by
      by_cases hc0 : c = '0'
      · obtain rfl : more = [] := by simpa [hc0] using hzero
        exact hc0 ▸ .zero
      · exact .digits hc hc0 hdigits
    have hcs : cs = more ++ (fraction ++ (exponent ++ tail₂.val)) := by
      rw [← htail₁, ← htail₀]
      exact hcs
    refine ⟨c :: more, fraction, exponent, hwhole, hf, he, ?_, _, rfl⟩
    show c :: cs = c :: more ++ (fraction ++ exponent) ++ tail₂.val
    rw [List.append_assoc, List.append_assoc]
    exact congrArg (c :: ·) hcs

/-- A number without sign is read. -/
theorem leaves_readNumber (negative : Bool) {whole fraction exponent : List Char}
    (hw : IsWhole whole)
    (hf : IsFraction fraction) (he : IsExponent exponent) (hrest : EndsNumber rest) :
    ∃ c cs, whole ++ (fraction ++ exponent) ++ rest = c :: cs ∧ c.isDigit = true ∧
      ∃ n h, readNumber negative c cs = .ok (.number n, ⟨rest, h⟩) := by
  have hend : EndsDigits (exponent ++ rest) ∧ ∀ c ∈ (exponent ++ rest).head?, c ≠ '.' := by
    cases he with
    | none => exact ⟨fun c hc => (hrest c hc).1, fun c hc => (hrest c hc).2.1⟩
    | digits he _ | signed he _ _ =>
      constructor <;>
        · rintro c ⟨⟩
          rcases he with rfl | rfl <;> decide
  have hend' : EndsDigits (fraction ++ (exponent ++ rest)) := by
    cases hf with
    | none => exact hend.1
    | digits =>
      rintro c ⟨⟩
      decide
  obtain ⟨c, more, rfl, hc, hmore, hzero⟩ : ∃ c more, whole = c :: more ∧ c.isDigit = true ∧
      (∀ d ∈ more, d.isDigit = true) ∧ ¬(c == '0' && !more.isEmpty) = true := by
    cases hw with
    | zero => exact ⟨'0', [], rfl, by decide, List.forall_mem_nil _, by decide⟩
    | @digits c more hc hne hmore => exact ⟨c, more, rfl, hc, hmore, by simp [hne]⟩
  obtain ⟨_, hspan⟩ := spanDigits_of_endsDigits hmore hend'
  obtain ⟨a, _, hfraction⟩ := leaves_readFraction hf hend.1 hend.2
  obtain ⟨b, _, hexponent⟩ := leaves_readExponent he hrest
  refine ⟨c, more ++ (fraction ++ (exponent ++ rest)), by simp, hc,
    (Spelling.mk negative (c :: more) a b).number, ?_⟩
  refine ⟨by simp only [List.length_append]; omega, ?_⟩
  rw [readNumber, hspan]
  dsimp only
  rw [if_neg hzero, hfraction]
  change (readExponent (exponent ++ rest) >>= _) = _
  rw [hexponent]
  rfl

/-! ## Strings -/

/-- Four digits are read. -/
theorem leaves_readHex {a b c d : Char} (h : ∀ x ∈ [a, b, c, d], IsHexDigit x) (rest : List Char) :
    Leaves (readHex (a :: b :: c :: d :: rest)) rest := by
  have hvalue {x : Char} (hx : x ∈ [a, b, c, d]) : ∃ n, Text.hexValue? x = some n :=
    Option.isSome_iff_exists.1 (isSome_hexValue?_iff.2 (h x hx))
  obtain ⟨p, hp⟩ := hvalue (x := a) (by simp)
  obtain ⟨q, hq⟩ := hvalue (x := b) (by simp)
  obtain ⟨r, hr⟩ := hvalue (x := c) (by simp)
  obtain ⟨s, hs⟩ := hvalue (x := d) (by simp)
  refine ⟨((p * 16 + q) * 16 + r) * 16 + s, by simp only [List.length_cons]; omega, ?_⟩
  rw [readHex, hp, hq, hr, hs]
  rfl

/-- The letters of escapes are those that stand for a character. -/
theorem isSome_escapeLetter?_iff : (escapeLetter? c).isSome = true ↔ c ∈ escapeLetters := by
  unfold escapeLetter?
  split <;> simp_all [escapeLetters]

/-- What is read as an escape is one, or two of which each stands for half a character. -/
theorem exists_of_readEscape {x : Except SyntaxError Char} {tail : Tail cs}
    (h : readEscape cs = .ok (x, tail)) :
    ∃ used, cs = used ++ tail.val ∧
      ∀ ts, IsStringTail ts → IsStringTail ('\\' :: (used ++ ts)) := by
  unfold readEscape at h
  split at h
  case h_1 => cases h
  case h_2 c cs =>
    split at h
    case isTrue hu =>
      obtain rfl : c = 'u' := beq_iff_eq.1 hu
      obtain ⟨⟨n, tail₁⟩, hhex, h⟩ := exists_of_bind_eq_ok h
      obtain ⟨a, b, c, d, hdigits, hcs⟩ := exists_of_readHex hhex
      have hsingle : ∃ used, 'u' :: cs = used ++ (tail₁.cons 'u').val ∧
          ∀ ts, IsStringTail ts → IsStringTail ('\\' :: (used ++ ts)) :=
        ⟨['u', a, b, c, d], congrArg ('u' :: ·) hcs, fun ts hts => .number hdigits hts⟩
      change (if _ then _ else if _ then _ else _) = _ at h
      split at h
      case isTrue =>
        cases h
        exact hsingle
      case isFalse =>
        split at h
        case isTrue =>
          cases h
          exact hsingle
        case isFalse =>
          split at h
          case h_1 y tail₂ hlow =>
            cases h
            obtain ⟨a', b', c', d', hdigits', htail₁⟩ := exists_of_readLowSurrogate hlow
            refine ⟨['u', a, b, c, d, '\\', 'u', a', b', c', d'], ?_, fun ts hts => ?_⟩
            · exact congrArg ('u' :: ·) (hcs.trans (congrArg ([a, b, c, d] ++ ·) htail₁))
            · exact .number hdigits (.number hdigits' hts)
          case h_2 =>
            cases h
            exact hsingle
    case isFalse =>
      split at h
      case h_1 y hletter =>
        cases h
        have hc := isSome_escapeLetter?_iff.1 (Option.isSome_of_eq_some hletter)
        exact ⟨[c], rfl, fun ts hts => .letter hc hts⟩
      case h_2 => cases h

/-- An escape of four digits is read, alone or with the one after it. -/
theorem exists_readEscape_number {a b c d : Char} (hdigits : ∀ x ∈ [a, b, c, d], IsHexDigit x)
    (h : IsStringTail cs) (rest : List Char) : ∃ x ts hle,
      readEscape ('u' :: a :: b :: c :: d :: (cs ++ rest)) = .ok (x, ⟨ts ++ rest, hle⟩) ∧
        IsStringTail ts ∧ ts.length ≤ cs.length := by
  obtain ⟨n, hle, hhex⟩ := leaves_readHex hdigits (cs ++ rest)
  have hsingle {x : Except SyntaxError Char}
      {read : Except SyntaxError (Except SyntaxError Char × Tail _)}
      (hread : read = .ok (x, Tail.cons 'u' ⟨cs ++ rest, hle⟩)) : ∃ x ts hle,
        read = .ok (x, ⟨ts ++ rest, hle⟩) ∧ IsStringTail ts ∧ ts.length ≤ cs.length :=
    ⟨x, cs, _, hread, h, Nat.le_refl _⟩
  rw [readEscape, if_pos (beq_self_eq_true 'u'), hhex]
  dsimp only [bind, Except.bind]
  split
  case isTrue => exact hsingle rfl
  case isFalse =>
    split
    case isTrue => exact hsingle rfl
    case isFalse =>
      split
      case h_1 x tail hlow =>
        -- the half after it is one more number of the string
        obtain ⟨a', b', c', d', -, hcs⟩ := exists_of_readLowSurrogate hlow
        cases h with
        | quote => cases hcs
        | plain _ hescape => exact absurd (List.cons.inj hcs).1 hescape
        | letter hletter =>
          rw [(List.cons.inj (List.cons.inj hcs).2).1] at hletter
          exact absurd hletter (by decide)
        | @number _ _ _ _ ts _ hts =>
          obtain ⟨tail, hle'⟩ := tail
          simp only [List.cons_append, List.nil_append, List.cons.injEq] at hcs
          obtain ⟨-, -, -, -, -, -, rfl⟩ := hcs
          refine ⟨_, ts, (Tail.cons 'u' (Tail.trans ⟨_, hle⟩ ⟨ts ++ rest, hle'⟩)).property,
            rfl, hts, ?_⟩
          simp only [List.length_cons]
          omega
      case h_2 => exact hsingle rfl

/-- What is read as a string is one. -/
theorem exists_of_readString {done : Except SyntaxError (List Char)}
    {s : Except SyntaxError String} {tail : Tail cs} (h : readString done cs = .ok (s, tail)) :
    ∃ used, cs = used ++ tail.val ∧ IsStringTail used := by
  induction done, cs using readString.induct with
  | case1 =>
    rw [readString] at h
    cases h
  | case2 done c rest hquote =>
    rw [readString, if_pos hquote] at h
    cases h
    exact ⟨[c], rfl, beq_iff_eq.1 hquote ▸ .quote⟩
  | case3 done c rest hquote hescape e he =>
    rw [readString, if_neg hquote, if_pos hescape, he] at h
    cases h
  | case4 done c rest hquote hescape x tail₁ hx e he =>
    rw [readString, if_neg hquote, if_pos hescape, hx] at h
    dsimp only at h
    rw [he] at h
    cases h
  | case5 done c rest hquote hescape x tail₁ hx s' u hs' ih =>
    rw [readString, if_neg hquote, if_pos hescape, hx] at h
    dsimp only at h
    rw [hs'] at h
    cases h
    obtain ⟨used, hrest, hstring⟩ := exists_of_readEscape hx
    obtain ⟨used', htail₁, hused'⟩ := ih hs'
    refine ⟨c :: (used ++ used'), ?_, beq_iff_eq.1 hescape ▸ hstring used' hused'⟩
    rw [List.cons_append, List.append_assoc]
    exact congrArg (c :: ·) (hrest.trans (congrArg (used ++ ·) htail₁))
  | case6 done c rest hquote hescape hcontrol =>
    rw [readString, if_neg hquote, if_neg hescape, if_pos hcontrol] at h
    cases h
  | case7 done c rest hquote hescape hcontrol e he =>
    rw [readString, if_neg hquote, if_neg hescape, if_neg hcontrol, he] at h
    cases h
  | case8 done c rest hquote hescape hcontrol s' u hs' ih =>
    rw [readString, if_neg hquote, if_neg hescape, if_neg hcontrol, hs'] at h
    cases h
    obtain ⟨used, hrest, hused⟩ := ih hs'
    have hplain : IsStringTail (c :: used) :=
      .plain (mt beq_iff_eq.2 hquote) (mt beq_iff_eq.2 hescape) (not_lt.1 hcontrol) hused
    exact ⟨c :: used, congrArg (c :: ·) hrest, hplain⟩

/-- A string is read. -/
theorem leaves_readString (h : IsStringTail cs) (done : Except SyntaxError (List Char))
    (rest : List Char) : Leaves (readString done (cs ++ rest)) rest := by
  obtain ⟨n, hn⟩ : ∃ n, cs.length = n := ⟨_, rfl⟩
  induction n using Nat.strongRecOn generalizing cs done with
  | ind n ih =>
    cases h with
    | quote =>
      refine ⟨done.map fun cs => String.ofList cs.reverse, Nat.le_succ _, ?_⟩
      change readString done ('"' :: rest) = _
      rw [readString, if_pos (by decide)]
      rfl
    | @plain c cs hquote hescape hcontrol h =>
      obtain ⟨s, hle, hread⟩ :=
        ih cs.length (by rw [← hn]; exact Nat.lt_succ_self _) h (done.map (c :: ·)) rfl
      refine ⟨s, Nat.le_succ_of_le hle, ?_⟩
      change readString done (c :: (cs ++ rest)) = _
      rw [readString, if_neg (mt beq_iff_eq.1 hquote), if_neg (mt beq_iff_eq.1 hescape),
        if_neg (not_lt.2 hcontrol), hread]
      rfl
    | @letter c cs hc h =>
      obtain ⟨x, hx⟩ := Option.isSome_iff_exists.1 (isSome_escapeLetter?_iff.2 hc)
      have hu : ¬(c == 'u') = true := by
        intro hu
        rw [beq_iff_eq.1 hu] at hc
        exact absurd hc (by decide)
      obtain ⟨s, hle, hread⟩ := ih cs.length (by rw [← hn]; simp only [List.length_cons]; omega) h
        (do let cs ← done; return (← Except.ok x) :: cs) rfl
      refine ⟨s, Nat.le_succ_of_le (Nat.le_succ_of_le hle), ?_⟩
      change readString done ('\\' :: c :: (cs ++ rest)) = _
      rw [readString, if_neg (by decide), if_pos (by decide), readEscape, if_neg hu, hx]
      dsimp only [Tail.cons, Tail.all]
      rw [hread]
      rfl
    | @number a b c d cs hdigits h =>
      obtain ⟨x, ts, hle, hescape, hts, hlength⟩ := exists_readEscape_number hdigits h rest
      obtain ⟨s, hle', hread⟩ :=
        ih ts.length (by rw [← hn]; simp only [List.length_cons]; omega) hts
        (do let cs ← done; return (← x) :: cs) rfl
      refine ⟨s, Nat.le_succ_of_le (hle'.trans hle), ?_⟩
      change readString done ('\\' :: 'u' :: a :: b :: c :: d :: (cs ++ rest)) = _
      rw [readString, if_neg (by decide), if_pos (by decide), hescape]
      dsimp only
      rw [hread]
      rfl

/-! ## Lexemes -/

/-- What is read as a word is that word. -/
theorem eq_of_readWord {tail : Tail cs} (h : readWord word cs = .ok tail) :
    cs = word ++ tail.val := by
  induction word generalizing cs with
  | nil =>
    rw [readWord] at h
    cases h
    rfl
  | cons w word ih =>
    cases cs with
    | nil => cases h
    | cons c cs =>
      rw [readWord] at h
      split at h
      case isTrue hw =>
        obtain ⟨tail', htail', rfl⟩ := exists_of_map_eq_ok h
        rw [beq_iff_eq.1 hw]
        exact congrArg (c :: ·) (ih htail')
      case isFalse => cases h

namespace Lexeme

/-- A lexeme that is none of the parts of values ends the reading of a value. -/
def isPart : Lexeme → Bool
  | .broken _ | .brokenString _ | .other => false
  | _ => true

/-- How a lexeme is spelt. Which number or string it is does not count. -/
inductive IsSpelt : Lexeme → List Char → Prop
  | openArray : IsSpelt .openArray ['[']
  | closeArray : IsSpelt .closeArray [']']
  | openObject : IsSpelt .openObject ['\x7b']
  | closeObject : IsSpelt .closeObject ['\x7d']
  | comma : IsSpelt .comma [',']
  | colon : IsSpelt .colon [':']
  | null : IsSpelt .null ['n', 'u', 'l', 'l']
  | true : IsSpelt (.bool true) ['t', 'r', 'u', 'e']
  | false : IsSpelt (.bool false) ['f', 'a', 'l', 's', 'e']
  | number {n : Except SyntaxError Value} {cs : List Char} (h : IsNumber cs) :
      IsSpelt (.number n) cs
  | string {s : Except SyntaxError String} {cs : List Char} (h : IsString cs) :
      IsSpelt (.string s) cs

end Lexeme

variable {t : Lexeme} {ts : List Lexeme}

/-- What is read as a part of a value is spelt as one. -/
theorem exists_of_readLexeme {tail : Tail cs} (h : readLexeme c cs = .ok (t, tail))
    (ht : t.isPart = true) : ∃ used, t.IsSpelt used ∧ c :: cs = used ++ tail.val := by
  unfold readLexeme at h
  split at h
  case h_1 | h_2 | h_3 | h_4 | h_5 | h_6 =>
    cases h
    exact ⟨[_], by constructor, rfl⟩
  case h_7 | h_8 | h_9 =>
    obtain ⟨tail', hword, ⟨⟩⟩ := exists_of_map_eq_ok h
    exact ⟨_ :: _, by constructor, congrArg (_ :: ·) (eq_of_readWord hword)⟩
  case h_10 =>
    obtain ⟨⟨s, tail'⟩, hstring, ⟨⟩⟩ := exists_of_map_eq_ok h
    obtain ⟨used, hcs, hused⟩ := exists_of_readString hstring
    exact ⟨'"' :: used, .string ⟨hused⟩, congrArg ('"' :: ·) hcs⟩
  case h_11 =>
    split at h
    case h_1 => cases h
    case h_2 d ds =>
      split at h
      case isTrue hd =>
        obtain ⟨⟨t, tail'⟩, hnumber, ⟨⟩⟩ := exists_of_map_eq_ok h
        obtain ⟨whole, fraction, exponent, hw, hf, he, hcs, n, rfl⟩ :=
          exists_of_readNumber hd hnumber
        exact ⟨_, .number (.negative hw hf he), congrArg ('-' :: ·) hcs⟩
      case isFalse => cases h
  case h_12 =>
    split at h
    case isTrue hc =>
      obtain ⟨whole, fraction, exponent, hw, hf, he, hcs, n, rfl⟩ := exists_of_readNumber hc h
      exact ⟨_, .number (.plain hw hf he), hcs⟩
    case isFalse =>
      cases h
      cases ht

/-- A text without lexemes is blank. -/
theorem areBlanks_of_lexemes_eq_nil (h : lexemes cs = []) : AreBlanks cs := by
  induction cs using lexemes.induct with
  | case1 => exact List.forall_mem_nil _
  | case2 c cs hblank ih =>
    rw [lexemes, if_pos hblank] at h
    exact List.forall_mem_cons.2 ⟨hblank, ih h⟩
  | case3 c cs hblank stop hstop =>
    rw [lexemes, if_neg hblank, hstop] at h
    cases h
  | case4 c cs hblank t tail ht ih =>
    rw [lexemes, if_neg hblank, ht] at h
    cases h

/-- **A lexeme that is a part of a value is spelt where the text begins, after blanks.** -/
theorem exists_of_lexemes_eq_cons (h : lexemes cs = t :: ts) (ht : t.isPart = true) :
    ∃ before used after, AreBlanks before ∧ t.IsSpelt used ∧ cs = before ++ (used ++ after) ∧
    lexemes after = ts := by
  induction cs using lexemes.induct with
  | case1 =>
    rw [lexemes] at h
    cases h
  | case2 c cs hblank ih =>
    rw [lexemes, if_pos hblank] at h
    obtain ⟨before, used, after, hbefore, hused, rfl, hafter⟩ := ih h
    exact ⟨c :: before, used, after, List.forall_mem_cons.2 ⟨hblank, hbefore⟩, hused, rfl, hafter⟩
  | case3 c cs hblank stop hstop =>
    rw [lexemes, if_neg hblank, hstop] at h
    obtain rfl : _ = t := (List.cons.inj h).1
    split at ht <;> cases ht
  | case4 c cs hblank t' tail hread _ =>
    rw [lexemes, if_neg hblank, hread] at h
    cases h
    obtain ⟨used, hused, hcs⟩ := exists_of_readLexeme hread ht
    exact ⟨[], used, tail.val, List.forall_mem_nil _, hused, hcs, rfl⟩

/-- Blanks are passed over. -/
theorem lexemes_append_of_areBlanks {ws : List Char} (hws : AreBlanks ws) (cs : List Char) :
    lexemes (ws ++ cs) = lexemes cs := by
  induction ws with
  | nil => rfl
  | cons b ws ih =>
    obtain ⟨hb, hws⟩ := List.forall_mem_cons.1 hws
    rw [List.cons_append, lexemes, if_pos hb, ih hws]

/-- A lexeme that is read at the front is the first. -/
theorem lexemes_cons {hle : rest.length ≤ cs.length} (hc : isJsonBlank c = false)
    (h : readLexeme c cs = .ok (t, ⟨rest, hle⟩)) : lexemes (c :: cs) = t :: lexemes rest := by
  rw [lexemes, if_neg (Bool.eq_false_iff.1 hc), h]

/-- A character that is a lexeme by itself. -/
def IsMark (c : Char) (t : Lexeme) : Prop :=
  isJsonBlank c = false ∧ ∀ cs, readLexeme c cs = .ok (t, .all cs)

theorem isMark_openArray : IsMark '[' .openArray := ⟨by decide, fun _ => rfl⟩

theorem isMark_closeArray : IsMark ']' .closeArray := ⟨by decide, fun _ => rfl⟩

theorem isMark_openObject : IsMark '\x7b' .openObject := ⟨by decide, fun _ => rfl⟩

theorem isMark_closeObject : IsMark '\x7d' .closeObject := ⟨by decide, fun _ => rfl⟩

theorem isMark_comma : IsMark ',' .comma := ⟨by decide, fun _ => rfl⟩

theorem isMark_colon : IsMark ':' .colon := ⟨by decide, fun _ => rfl⟩

/-- A mark is the first lexeme of a text that begins with it. -/
theorem IsMark.lexemes_cons (h : IsMark c t) (cs : List Char) :
    lexemes (c :: cs) = t :: lexemes cs :=
  Json.lexemes_cons h.1 (h.2 cs)

/-- What stands between two marks is between them in the lexemes. -/
theorem lexemes_enclosed {o : Char} {u : Lexeme} (ho : IsMark o t) (hc : IsMark c u)
    (h : lexemes (cs ++ c :: rest) = ts ++ lexemes (c :: rest)) :
    lexemes (o :: (cs ++ [c]) ++ rest) = t :: (ts ++ [u]) ++ lexemes rest := by
  rw [List.cons_append, List.append_assoc, List.singleton_append, ho.lexemes_cons, h,
    hc.lexemes_cons]
  simp

/-- A digit begins a number. -/
theorem readLexeme_of_isDigit (hc : c.isDigit = true) (cs : List Char) :
    readLexeme c cs = readNumber false c cs := by
  unfold readLexeme
  split
  case h_12 => rw [if_pos hc]
  all_goals exact absurd hc (by decide)

/-- A digit is no blank. -/
theorem isJsonBlank_of_isDigit (hc : c.isDigit = true) : isJsonBlank c = false := by
  refine Bool.eq_false_iff.2 fun hblank => ?_
  simp only [isJsonBlank, Bool.or_eq_true, beq_iff_eq] at hblank
  rcases hblank with ((rfl | rfl) | rfl) | rfl <;> exact absurd hc (by decide)

/-- A number is a lexeme, if what follows could not be more of it. -/
theorem exists_lexemes_number (h : IsNumber cs) (hrest : EndsNumber rest) :
    ∃ n, lexemes (cs ++ rest) = .number n :: lexemes rest := by
  cases h with
  | plain hw hf he =>
    obtain ⟨c, cs, happend, hc, n, hle, hread⟩ := leaves_readNumber false hw hf he hrest
    rw [happend]
    exact ⟨n, lexemes_cons (isJsonBlank_of_isDigit hc) ((readLexeme_of_isDigit hc cs).trans hread)⟩
  | negative hw hf he =>
    obtain ⟨c, cs, happend, hc, n, hle, hread⟩ := leaves_readNumber true hw hf he hrest
    rw [List.cons_append, happend]
    have hlexeme : readLexeme '-' (c :: cs) = .ok (.number n, Tail.cons c ⟨rest, hle⟩) := by
      change (if c.isDigit = true then _ else _) = _
      rw [if_pos hc, hread]
      rfl
    exact ⟨n, lexemes_cons (by decide) hlexeme⟩

/-- A string is a lexeme. -/
theorem exists_lexemes_string (h : IsString cs) (rest : List Char) :
    ∃ s, lexemes (cs ++ rest) = .string s :: lexemes rest := by
  obtain ⟨h⟩ := h
  obtain ⟨s, hle, hread⟩ := leaves_readString h (.ok []) rest
  have hlexeme : readLexeme '"' (_ ++ rest) = .ok (.string s, ⟨rest, hle⟩) := by
    change (readString (.ok []) _).map _ = _
    rw [hread]
    rfl
  exact ⟨s, lexemes_cons (by decide) hlexeme⟩

end Dossier.Json
