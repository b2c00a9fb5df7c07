import Dossier.Json.Lexeme
import Dossier.Proofs.Json.Decode
import Dossier.Proofs.Json.Grammar
import Dossier.Proofs.Text.Blank

/-!
# Blanks around lexemes

A reader of numbers, strings or words stops where the blanks at the end of a text begin, so it
reads the same without them (`LeavesBlanks`). That is not so of faults: an escape that the text
breaks off in is another fault where blanks follow. So the lexemes of a text are those of the text
without the blanks around it provided that all of them are without fault (`lexemes_blanks_append`,
`lexemes_append_blanks`).
-/

namespace Dossier.Json

open Dossier.Text (Tail isBlank AreBlank)
open Grammar (IsHexDigit)

variable {cs ws : List Char}

/-- A character that is no blank does not stand at the front of blanks. -/
theorem ne_of_areBlank {b c : Char} (hws : AreBlank (b :: ws)) (hc : isBlank c = false) :
    b ≠ c := by
  rintro rfl
  rw [hws b (.head _)] at hc
  cases hc

/-- What stands at the front of a text and holds no blank stands before the blanks at its end. -/
theorem exists_of_append_eq {front rest : List Char} (hws : AreBlank ws)
    (hfront : front.any isBlank = false)
    (h : cs ++ ws = front ++ rest) : ∃ cs', cs = front ++ cs' ∧ rest = cs' ++ ws := by
  obtain ⟨between, rfl, rfl⟩ | h := List.append_eq_append_iff.1 h
  · cases between with
    | nil => exact ⟨[], by rw [List.append_nil, List.append_nil], rfl⟩
    | cons b between =>
      exact absurd (hws b (.head _))
        (List.any_eq_false.1 hfront b (List.mem_append_right _ (.head _)))
  · exact h

/-- A reader that leaves the blanks at the end of a text: what it reads before them it reads
without them. -/
def LeavesBlanks {ε α : Type} (read : (cs : List Char) → Except ε (α × Tail cs)) : Prop :=
  ∀ {cs ws : List Char} {a : α} {tail : Tail (cs ++ ws)}, AreBlank ws →
  read (cs ++ ws) = .ok (a, tail) →
    ∃ tail' : Tail cs, read cs = .ok (a, tail') ∧ tail.val = tail'.val ++ ws

/-- What is read after a character leaves blanks if the reader does. -/
theorem LeavesBlanks.map_cons {ε α β : Type} {read : (cs : List Char) → Except ε (α × Tail cs)}
    (h : LeavesBlanks read) (f : α → β) (c : Char) (hws : AreBlank ws) {b : β}
    {tail : Tail (c :: (cs ++ ws))}
    (hread : (read (cs ++ ws)).map (fun (a, tail) => (f a, tail.cons c)) = .ok (b, tail)) :
    ∃ tail' : Tail (c :: cs), (read cs).map (fun (a, tail) => (f a, tail.cons c)) =
      .ok (b, tail') ∧
      tail.val = tail'.val ++ ws := by
  obtain ⟨⟨a, tail⟩, hcs, ⟨⟩⟩ := exists_of_map_eq_ok hread
  obtain ⟨tail', hread', htail⟩ := h hws hcs
  rw [hread']
  exact ⟨tail'.cons c, rfl, htail⟩

/-! ## Numbers -/

/-- Blanks do not begin with a digit. -/
theorem spanDigits_of_areBlank (hws : AreBlank ws) : spanDigits ws = ([], .all ws) := by
  cases ws with
  | nil => rw [spanDigits]
  | cons b ws =>
    have hb : ¬b.isDigit = true := fun h => ne_of_areBlank hws (Text.isBlank_of_isDigit h) rfl
    rw [spanDigits, if_neg hb]

/-- Digits end where blanks begin. -/
theorem exists_spanDigits (hws : AreBlank ws) (cs : List Char) : ∃ tail : Tail cs,
    spanDigits cs = ((spanDigits (cs ++ ws)).1, tail) ∧
    (spanDigits (cs ++ ws)).2.val = tail.val ++ ws := by
  induction cs with
  | nil =>
    rw [List.nil_append, spanDigits_of_areBlank hws, spanDigits]
    exact ⟨.all [], rfl, rfl⟩
  | cons c cs ih =>
    obtain ⟨tail, hdigits, htail⟩ := ih
    rw [List.cons_append, spanDigits, spanDigits]
    split
    · rw [hdigits]
      exact ⟨tail.cons c, rfl, htail⟩
    · exact ⟨.all _, rfl, rfl⟩

/-- No fraction begins with a blank. -/
theorem readFraction_of_areBlank (hws : AreBlank ws) : readFraction ws = .ok (none, .all ws) := by
  unfold readFraction
  split
  · exact absurd rfl (ne_of_areBlank hws (by decide))
  · rfl

theorem leavesBlanks_readFraction : LeavesBlanks readFraction := by
  intro cs ws a tail hws h
  cases cs with
  | nil =>
    change readFraction ws = _ at h
    rw [readFraction_of_areBlank hws] at h
    cases h
    exact ⟨.all [], rfl, rfl⟩
  | cons c cs =>
    change readFraction (c :: (cs ++ ws)) = _ at h
    by_cases hc : c = '.'
    · subst hc
      obtain ⟨tail', hdigits, htail⟩ := exists_spanDigits hws cs
      rw [readFraction] at h ⊢
      rw [hdigits]
      dsimp only at h ⊢
      split at h
      · cases h
      · cases h
        rw [if_neg ‹_›]
        exact ⟨tail'.cons '.', rfl, htail⟩
    · rw [readFraction] at h ⊢
      · cases h
        exact ⟨.all _, rfl, rfl⟩
      · rintro cs' ⟨⟩
        exact hc rfl
      · rintro cs' ⟨⟩
        exact hc rfl

theorem leavesBlanks_readExponentDigits (down : Bool) :
    LeavesBlanks (readExponentDigits down) := by
  intro cs ws a tail hws h
  obtain ⟨tail', hdigits, htail⟩ := exists_spanDigits hws cs
  rw [readExponentDigits] at h ⊢
  rw [hdigits]
  dsimp only at h ⊢
  split at h
  · cases h
  · cases h
    rw [if_neg ‹_›]
    exact ⟨tail', rfl, htail⟩

/-- An exponent without sign is read from its first digit. -/
theorem readSignedExponent_cons {c : Char} (hdown : c ≠ '-') (hup : c ≠ '+') (cs : List Char) :
    readSignedExponent (c :: cs) = readExponentDigits false (c :: cs) := by
  rw [readSignedExponent]
  · rintro cs' ⟨⟩
    exact hdown rfl
  · rintro cs' ⟨⟩
    exact hup rfl

theorem leavesBlanks_readSignedExponent : LeavesBlanks readSignedExponent := by
  intro cs ws a tail hws h
  cases cs with
  | nil =>
    -- blanks are no exponent
    change readSignedExponent ws = _ at h
    unfold readSignedExponent at h
    split at h
    · exact absurd rfl (ne_of_areBlank hws (by decide))
    · exact absurd rfl (ne_of_areBlank hws (by decide))
    · rw [readExponentDigits, spanDigits_of_areBlank hws] at h
      cases h
  | cons c cs =>
    change readSignedExponent (c :: (cs ++ ws)) = _ at h
    by_cases hdown : c = '-'
    · subst hdown
      exact LeavesBlanks.map_cons (leavesBlanks_readExponentDigits true) id '-' hws h
    by_cases hup : c = '+'
    · subst hup
      exact LeavesBlanks.map_cons (leavesBlanks_readExponentDigits false) id '+' hws h
    rw [readSignedExponent_cons hdown hup] at h ⊢
    exact leavesBlanks_readExponentDigits false hws h

/-- No exponent begins with a blank. -/
theorem readExponent_of_areBlank (hws : AreBlank ws) : readExponent ws = .ok (none, .all ws) := by
  cases ws with
  | nil => rfl
  | cons b ws =>
    rw [readExponent, if_neg]
    rw [beq_eq_false_iff_ne.2 (ne_of_areBlank hws (by decide)),
      beq_eq_false_iff_ne.2 (ne_of_areBlank hws (by decide))]
    decide

theorem leavesBlanks_readExponent : LeavesBlanks readExponent := by
  intro cs ws a tail hws h
  cases cs with
  | nil =>
    change readExponent ws = _ at h
    rw [readExponent_of_areBlank hws] at h
    cases h
    exact ⟨.all [], rfl, rfl⟩
  | cons c cs =>
    change readExponent (c :: (cs ++ ws)) = _ at h
    rw [readExponent] at h ⊢
    split at h
    case isTrue hc =>
      rw [if_pos hc]
      exact leavesBlanks_readSignedExponent.map_cons some c hws h
    case isFalse hc =>
      rw [if_neg hc]
      cases h
      exact ⟨.all _, rfl, rfl⟩

theorem leavesBlanks_readNumber (negative : Bool) (c : Char) :
    LeavesBlanks (readNumber negative c) := by
  intro cs ws a tail hws h
  obtain ⟨tail₀, hdigits, htail₀⟩ := exists_spanDigits hws cs
  unfold readNumber at h ⊢
  rw [hdigits]
  generalize spanDigits (cs ++ ws) = digits at h htail₀ ⊢
  obtain ⟨more, rest, hrest⟩ := digits
  change rest = _ at htail₀
  subst htail₀
  dsimp only at h ⊢
  split at h
  case isTrue => cases h
  case isFalse hzero =>
    rw [if_neg hzero]
    obtain ⟨⟨fraction, rest₁, hrest₁⟩, hfraction, h⟩ := exists_of_bind_eq_ok h
    obtain ⟨tail₁, hfraction', htail₁⟩ := leavesBlanks_readFraction hws hfraction
    change rest₁ = _ at htail₁
    subst htail₁
    obtain ⟨⟨exponent, rest₂, hrest₂⟩, hexponent, h⟩ := exists_of_bind_eq_ok h
    obtain ⟨tail₂, hexponent', htail₂⟩ := leavesBlanks_readExponent hws hexponent
    cases h
    refine ⟨tail₀.trans (tail₁.trans tail₂), ?_, htail₂⟩
    rw [hfraction']
    show (readExponent tail₁.val >>= _) = _
    rw [hexponent']
    rfl

/-! ## Strings -/

/-- The digits that have a value up to fifteen. -/
theorem isSome_hexValue?_iff {c : Char} : (Text.hexValue? c).isSome = true ↔ IsHexDigit c := by
  unfold Text.hexValue? IsHexDigit
  split
  case isTrue h => simp [h]
  case isFalse h =>
    split
    case isTrue h' => simpa using .inr (.inl (by simpa using h'))
    case isFalse h' =>
      split
      case isTrue h'' => simpa using .inr (.inr (by simpa using h''))
      case isFalse h'' => simp_all

/-- A hexadecimal digit is no blank. -/
theorem isBlank_of_isHexDigit {c : Char} (h : IsHexDigit c) : isBlank c = false := by
  refine Bool.eq_false_iff.2 fun hblank => ?_
  have hcode := Text.toNat_of_isBlank hblank
  rcases h with hdigit | ⟨ha, hf⟩ | ⟨ha, hf⟩
  · rw [Text.isBlank_of_isDigit hdigit] at hblank
    cases hblank
  · have ha : 0x61 ≤ c.toNat := ha
    have hf : c.toNat ≤ 0x66 := hf
    omega
  · have ha : 0x41 ≤ c.toNat := ha
    have hf : c.toNat ≤ 0x46 := hf
    omega

/-- What is read as four digits begins with four. -/
theorem exists_of_readHex {n : Nat} {tail : Tail cs} (h : readHex cs = .ok (n, tail)) :
    ∃ a b c d, (∀ x ∈ [a, b, c, d], IsHexDigit x) ∧ cs = [a, b, c, d] ++ tail.val := by
  unfold readHex at h
  split at h
  case h_1 a b c d rest =>
    split at h
    case h_1 p q r s hp hq hr hs =>
      cases h
      have hdigit {x : Char} {n : Nat} (hx : Text.hexValue? x = some n) : IsHexDigit x :=
        isSome_hexValue?_iff.1 (Option.isSome_of_eq_some hx)
      refine ⟨a, b, c, d, ?_, rfl⟩
      simp [hdigit hp, hdigit hq, hdigit hr, hdigit hs]
    case h_2 => cases h
  case h_2 => cases h

theorem leavesBlanks_readHex : LeavesBlanks readHex := by
  intro cs ws n tail hws h
  obtain ⟨a, b, c, d, hdigits, hcs⟩ := exists_of_readHex h
  have hblank : [a, b, c, d].any isBlank = false :=
    List.any_eq_false.2 fun x hx => Bool.eq_false_iff.1 (isBlank_of_isHexDigit (hdigits x hx))
  obtain ⟨rest, rfl, hrest⟩ := exists_of_append_eq hws hblank hcs
  change readHex (a :: b :: c :: d :: (rest ++ ws)) = _ at h
  show ∃ tail' : Tail (a :: b :: c :: d :: rest), readHex (a :: b :: c :: d :: rest) = _ ∧ _
  unfold readHex at h ⊢
  dsimp only at h ⊢
  split at h
  · cases h
    exact ⟨_, rfl, hrest⟩
  · cases h

/-- The second half of a pair is a number. -/
theorem exists_of_readLowSurrogate {high : Nat} {x : Char} {tail : Tail cs}
    (h : readLowSurrogate high cs = .ok (x, tail)) :
    ∃ a b c d, (∀ x ∈ [a, b, c, d], IsHexDigit x) ∧
      cs = ['\\', 'u'] ++ ([a, b, c, d] ++ tail.val) := by
  unfold readLowSurrogate at h
  split at h
  case h_1 rest =>
    obtain ⟨⟨low, tail'⟩, hhex, h⟩ := exists_of_bind_eq_ok h
    obtain ⟨a, b, c, d, hdigits, hrest⟩ := exists_of_readHex hhex
    change (if _ then _ else _) = _ at h
    split at h
    case isTrue =>
      obtain ⟨rfl, rfl⟩ := Prod.mk.inj (Except.ok.inj h)
      exact ⟨a, b, c, d, hdigits, congrArg ('\\' :: 'u' :: ·) hrest⟩
    case isFalse => cases h
  all_goals cases h

theorem leavesBlanks_readLowSurrogate (high : Nat) : LeavesBlanks (readLowSurrogate high) := by
  intro cs ws x tail hws h
  obtain ⟨_, _, _, _, -, hcs⟩ := exists_of_readLowSurrogate h
  obtain ⟨rest, rfl, -⟩ := exists_of_append_eq hws (by decide) hcs
  change readLowSurrogate high ('\\' :: 'u' :: (rest ++ ws)) = _ at h
  unfold readLowSurrogate at h
  obtain ⟨⟨low, tail₁⟩, hlow, h⟩ := exists_of_bind_eq_ok h
  obtain ⟨tail', hlow', htail⟩ := leavesBlanks_readHex hws hlow
  change (if _ then _ else _) = _ at h
  split at h
  case isTrue hrange =>
    obtain ⟨rfl, rfl⟩ := Prod.mk.inj (Except.ok.inj h)
    refine ⟨(tail'.cons 'u').cons '\\', ?_, htail⟩
    show (readHex rest >>= _) = _
    rw [hlow']
    exact if_pos hrange
  case isFalse => cases h

/-- What an escape names by a letter is named by no blank. -/
theorem isBlank_of_escapeLetter? {c x : Char} (h : escapeLetter? c = some x) :
    isBlank c = false := by
  unfold escapeLetter? at h
  split at h
  case h_9 => cases h
  all_goals decide

/-- An escape that stands for a character is read alike without blanks after it. -/
theorem exists_readEscape {x : Char} {tail : Tail (cs ++ ws)} (hws : AreBlank ws)
    (h : readEscape (cs ++ ws) = .ok (.ok x, tail)) :
    ∃ tail' : Tail cs, readEscape cs = .ok (.ok x, tail') ∧ tail.val = tail'.val ++ ws := by
  cases cs with
  | nil =>
    -- blanks are no escape
    change readEscape ws = _ at h
    cases ws with
    | nil => cases h
    | cons b ws =>
      have hu : ¬(b == 'u') = true := mt beq_iff_eq.1 (ne_of_areBlank hws (by decide))
      rw [readEscape, if_neg hu] at h
      split at h
      case h_1 letter hletter =>
        exact absurd rfl (ne_of_areBlank hws (isBlank_of_escapeLetter? hletter))
      case h_2 => cases h
  | cons c cs =>
    change readEscape (c :: (cs ++ ws)) = _ at h
    rw [readEscape] at h ⊢
    split at h
    case isTrue hu =>
      rw [if_pos hu]
      obtain ⟨⟨n, rest, hrest⟩, hn, h⟩ := exists_of_bind_eq_ok h
      obtain ⟨tail₁, hn', htail₁⟩ := leavesBlanks_readHex hws hn
      change rest = _ at htail₁
      subst htail₁
      rw [hn']
      change (if _ then _ else if _ then _ else _) = _ at h
      dsimp only [bind, Except.bind]
      split at h
      case isTrue => cases h
      case isFalse hlow =>
        rw [if_neg hlow]
        split at h
        case isTrue hplain =>
          cases h
          rw [if_pos hplain]
          exact ⟨tail₁.cons c, rfl, rfl⟩
        case isFalse hpair =>
          rw [if_neg hpair]
          split at h
          case h_1 y rest hsurrogate =>
            obtain ⟨tail₂, hsurrogate', htail₂⟩ := leavesBlanks_readLowSurrogate n hws hsurrogate
            cases h
            rw [hsurrogate']
            exact ⟨(tail₁.trans tail₂).cons c, rfl, htail₂⟩
          case h_2 => cases h
    case isFalse hu =>
      rw [if_neg hu]
      split at h
      case h_1 letter hletter =>
        cases h
        exact ⟨_, rfl, rfl⟩
      case h_2 => cases h

/-- Behind a fault a string has no value. -/
theorem readString_error {e : SyntaxError} {s : Except SyntaxError String} {tail : Tail cs}
    (h : readString (.error e) cs = .ok (s, tail)) : s = .error e := by
  generalize hdone : Except.error e = done at h
  induction done, cs using readString.induct with
  | case1 =>
    rw [readString] at h
    cases h
  | case2 done c rest hquote =>
    subst hdone
    rw [readString, if_pos hquote] at h
    cases h
    rfl
  | case3 done c rest hquote hescape e' he' =>
    rw [readString, if_neg hquote, if_pos hescape, he'] at h
    cases h
  | case4 done c rest hquote hescape x tail₁ hx e' he' =>
    rw [readString, if_neg hquote, if_pos hescape, hx] at h
    dsimp only at h
    rw [he'] at h
    cases h
  | case5 done c rest hquote hescape x tail₁ hx s' u hs' ih =>
    rw [readString, if_neg hquote, if_pos hescape, hx] at h
    dsimp only at h
    rw [hs'] at h
    cases h
    subst hdone
    exact ih rfl hs'
  | case6 done c rest hquote hescape hcontrol =>
    rw [readString, if_neg hquote, if_neg hescape, if_pos hcontrol] at h
    cases h
  | case7 done c rest hquote hescape hcontrol e' he' =>
    rw [readString, if_neg hquote, if_neg hescape, if_neg hcontrol, he'] at h
    cases h
  | case8 done c rest hquote hescape hcontrol s' u hs' ih =>
    rw [readString, if_neg hquote, if_neg hescape, if_neg hcontrol, hs'] at h
    cases h
    subst hdone
    exact ih rfl hs'

/-- A string does not end in blanks. -/
theorem readString_ne_ok (hws : AreBlank ws) (done : Except SyntaxError (List Char))
    (r : Except SyntaxError String × Tail ws) : readString done ws ≠ .ok r := by
  intro h
  induction ws generalizing done with
  | nil =>
    rw [readString] at h
    cases h
  | cons b ws ih =>
    have hquote : ¬(b == '"') = true := mt beq_iff_eq.1 (ne_of_areBlank hws (by decide))
    have hescape : ¬(b == '\\') = true := mt beq_iff_eq.1 (ne_of_areBlank hws (by decide))
    rw [readString, if_neg hquote, if_neg hescape] at h
    split at h
    · cases h
    · split at h
      · cases h
      case h_2 s u hs => exact ih (fun c hc => hws c (.tail _ hc)) _ _ hs

/-- A string that has a value is read alike without blanks after it. -/
theorem exists_readString {done : Except SyntaxError (List Char)} {s : String}
    {tail : Tail (cs ++ ws)}
    (hws : AreBlank ws) (h : readString done (cs ++ ws) = .ok (.ok s, tail)) :
    ∃ tail' : Tail cs, readString done cs = .ok (.ok s, tail') ∧ tail.val = tail'.val ++ ws := by
  obtain ⟨n, hn⟩ : ∃ n, cs.length = n := ⟨_, rfl⟩
  induction n using Nat.strongRecOn generalizing cs done with
  | ind n ih =>
    cases cs with
    | nil => exact absurd h (readString_ne_ok hws done _)
    | cons c cs =>
      change readString done (c :: (cs ++ ws)) = _ at h
      rw [readString] at h ⊢
      split at h
      case isTrue hquote =>
        obtain ⟨hs, rfl⟩ := Prod.mk.inj (Except.ok.inj h)
        rw [if_pos hquote, hs]
        exact ⟨_, rfl, rfl⟩
      case isFalse hquote =>
        rw [if_neg hquote]
        split at h
        case isTrue hescape =>
          rw [if_pos hescape]
          split at h
          case h_1 => cases h
          case h_2 x tail₁ hx =>
            split at h
            case h_1 => cases h
            case h_2 s' u hs' =>
              cases h
              cases x with
              | error e =>
                have hfault : ∃ e', (do let cs ← done; return (← Except.error e) :: cs) =
                    Except.error e' := by
                  cases done <;> exact ⟨_, rfl⟩
                obtain ⟨e', hfault⟩ := hfault
                rw [hfault] at hs'
                cases readString_error hs'
              | ok x =>
                obtain ⟨tail₁', hx', htail₁⟩ := exists_readEscape hws hx
                obtain ⟨rest, hrest⟩ := tail₁
                change rest = _ at htail₁
                subst htail₁
                have hlt : tail₁'.val.length < n := by
                  rw [← hn]
                  exact Nat.lt_succ_of_le tail₁'.property
                obtain ⟨tail', hs, htail⟩ := ih _ hlt hs' rfl
                rw [hx']
                dsimp only
                rw [hs]
                exact ⟨(tail₁'.trans tail').cons c, rfl, htail⟩
        case isFalse hescape =>
          rw [if_neg hescape]
          split at h
          case isTrue => cases h
          case isFalse hcontrol =>
            rw [if_neg hcontrol]
            split at h
            case h_1 => cases h
            case h_2 s' u hs' =>
              cases h
              obtain ⟨tail', hs, htail⟩ :=
                ih cs.length (by rw [← hn]; exact Nat.lt_succ_self _) hs' rfl
              rw [hs]
              exact ⟨tail'.cons c, rfl, htail⟩

/-! ## Lexemes -/

/-- A word without blanks is read alike without blanks after it. -/
theorem exists_readWord {word : List Char} {tail : Tail (cs ++ ws)} (hws : AreBlank ws)
    (hword : word.any isBlank = false) (h : readWord word (cs ++ ws) = .ok tail) :
    ∃ tail' : Tail cs, readWord word cs = .ok tail' ∧ tail.val = tail'.val ++ ws := by
  induction word generalizing cs with
  | nil =>
    rw [readWord] at h ⊢
    cases h
    exact ⟨.all cs, rfl, rfl⟩
  | cons w word ih =>
    obtain ⟨hfirst, hword⟩ := Bool.or_eq_false_iff.1 hword
    cases cs with
    | nil =>
      change readWord (w :: word) ws = _ at h
      cases ws with
      | nil => cases h
      | cons b ws =>
        have hw : ¬(w == b) = true := mt beq_iff_eq.1 (ne_of_areBlank hws hfirst).symm
        rw [readWord, if_neg hw] at h
        cases h
    | cons c cs =>
      change readWord (w :: word) (c :: (cs ++ ws)) = _ at h
      rw [readWord] at h ⊢
      split at h
      case isTrue hw =>
        rw [if_pos hw]
        obtain ⟨rest, hrest, rfl⟩ := exists_of_map_eq_ok h
        obtain ⟨tail', hread, htail⟩ := ih hword hrest
        rw [hread]
        exact ⟨tail'.cons c, rfl, htail⟩
      case isFalse => cases h

/-- A lexeme without fault. -/
def Lexeme.isSound : Lexeme → Bool
  | .number n => n.isOk
  | .string s => s.isOk
  | .broken _ | .brokenString _ | .other => false
  | _ => true

/-- The lexeme that a word is. -/
theorem exists_map_readWord {word : List Char} {lexeme t : Lexeme} {tail : Tail (cs ++ ws)}
    (hws : AreBlank ws) (hword : word.any isBlank = false)
    (h : (readWord word (cs ++ ws)).map (lexeme, ·) = .ok (t, tail)) :
    ∃ tail' : Tail cs, (readWord word cs).map (lexeme, ·) = .ok (t, tail') ∧
    tail.val = tail'.val ++ ws := by
  obtain ⟨rest, hread, ⟨⟩⟩ := exists_of_map_eq_ok h
  obtain ⟨tail', hread', htail⟩ := exists_readWord hws hword hread
  rw [hread']
  exact ⟨tail', rfl, htail⟩

/-- A lexeme without fault is read alike without blanks after it. -/
theorem exists_readLexeme {c : Char} {t : Lexeme} {tail : Tail (cs ++ ws)} (hws : AreBlank ws)
    (ht : t.isSound = true) (h : readLexeme c (cs ++ ws) = .ok (t, tail)) :
    ∃ tail' : Tail cs, readLexeme c cs = .ok (t, tail') ∧ tail.val = tail'.val ++ ws := by
  unfold readLexeme at h ⊢
  split at h
  case h_1 | h_2 | h_3 | h_4 | h_5 | h_6 =>
    cases h
    exact ⟨.all cs, rfl, rfl⟩
  case h_7 | h_8 | h_9 => exact exists_map_readWord hws (by decide) h
  case h_10 =>
    obtain ⟨⟨s | s, rest⟩, hread, ⟨⟩⟩ := exists_of_map_eq_ok h
    · cases ht
    · obtain ⟨tail', hread', htail⟩ := exists_readString hws hread
      rw [hread']
      exact ⟨tail', rfl, htail⟩
  case h_11 =>
    cases cs with
    | nil =>
      cases ws with
      | nil => cases h
      | cons b ws =>
        have hb : ¬b.isDigit = true :=
          fun hdigit => ne_of_areBlank hws (Text.isBlank_of_isDigit hdigit) rfl
        change (if b.isDigit = true then _ else _) = _ at h
        rw [if_neg hb] at h
        cases h
    | cons d ds =>
      change (if d.isDigit = true then _ else _) = _ at h
      show ∃ tail' : Tail (d :: ds), (if d.isDigit = true then _ else _) = _ ∧ _
      split at h
      case isTrue hdigit =>
        rw [if_pos hdigit]
        exact LeavesBlanks.map_cons (leavesBlanks_readNumber true d) id d hws h
      case isFalse => cases h
  case h_12 =>
    split at h
    case isTrue hdigit =>
      rw [if_pos hdigit]
      exact leavesBlanks_readNumber false c hws h
    case isFalse =>
      cases h
      cases ht

/-! ## Lexemes of a text -/

/-- A blank begins no lexeme. -/
theorem readLexeme_of_isBlank {b : Char} (hb : isBlank b = true) :
    readLexeme b cs = .ok (.other, .all cs) := by
  unfold readLexeme
  split
  case h_12 =>
    rw [if_neg]
    intro hdigit
    rw [Text.isBlank_of_isDigit hdigit] at hb
    cases hb
  all_goals exact absurd hb (by decide)

/-- A text whose lexemes are without fault has the same without the blanks at its start. -/
theorem lexemes_blanks_append (hws : AreBlank ws)
    (hsound : ∀ t ∈ lexemes (ws ++ cs), t.isSound = true) : lexemes (ws ++ cs) = lexemes cs := by
  induction ws with
  | nil => rfl
  | cons b ws ih =>
    rw [List.cons_append, lexemes] at hsound ⊢
    split at hsound
    case isTrue hblank =>
      rw [if_pos hblank]
      exact ih (fun c hc => hws c (.tail _ hc)) hsound
    case isFalse =>
      rw [readLexeme_of_isBlank (hws b (.head _))] at hsound
      cases hsound .other (.head _)

/-- A text whose lexemes are without fault has the same without the blanks at its end. -/
theorem lexemes_append_blanks (hws : AreBlank ws)
    (hsound : ∀ t ∈ lexemes (cs ++ ws), t.isSound = true) : lexemes (cs ++ ws) = lexemes cs := by
  obtain ⟨n, hn⟩ : ∃ n, cs.length = n := ⟨_, rfl⟩
  induction n using Nat.strongRecOn generalizing cs with
  | ind n ih =>
    cases cs with
    | nil =>
      rw [← List.append_nil ([] ++ ws)] at hsound ⊢
      exact lexemes_blanks_append hws hsound
    | cons c cs =>
      have hlt {rest : List Char} (hrest : rest.length ≤ cs.length) : rest.length < n := by
        rw [← hn]
        exact Nat.lt_succ_of_le hrest
      rw [List.cons_append, lexemes] at hsound ⊢
      rw [lexemes]
      split at hsound
      case isTrue hblank =>
        rw [if_pos hblank, if_pos hblank]
        exact ih _ (hlt (Nat.le_refl _)) hsound rfl
      case isFalse hblank =>
        rw [if_neg hblank, if_neg hblank]
        cases hread : readLexeme c (cs ++ ws) with
        | error stop =>
          rw [hread] at hsound
          have hstop := hsound _ (.head _)
          split at hstop <;> cases hstop
        | ok read =>
          obtain ⟨t, rest, hrest⟩ := read
          rw [hread] at hsound
          obtain ⟨ht, hsound⟩ := List.forall_mem_cons.1 hsound
          obtain ⟨tail', hread', htail⟩ := exists_readLexeme hws ht hread
          change rest = _ at htail
          subst htail
          rw [hread']
          exact congrArg (t :: ·) (ih _ (hlt tail'.property) hsound rfl)

end Dossier.Json
