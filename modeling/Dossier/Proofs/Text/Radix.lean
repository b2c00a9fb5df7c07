import Mathlib.Data.String.Basic
import Dossier.Text.Radix

/-!
# Laws of decimal numerals

Of two numerals with equally many digits, the one that writes the lesser number comes first in the
order of texts (`ofDigits_lt_iff`). With leading zeros, every number that is not too large has such
a numeral (`ofDigits_numeral`).
-/

namespace Dossier.Text

/-- A numeral with a given number of decimal digits. -/
structure IsNumeral (width : Nat) (cs : List Char) : Prop where
  length : cs.length = width
  digits : ∀ c ∈ cs, c.isDigit = true

variable {width : Nat} {c d : Char} {cs ds : List Char}

/-! ## Digits -/

/-- Digits are in the order of their values. -/
theorem digitValue_lt_iff (hc : c.isDigit = true) (hd : d.isDigit = true) :
    digitValue c < digitValue d ↔ c < d := by
  have hzero : '0'.toNat = 48 := rfl
  obtain ⟨hc, -⟩ := Char.isDigit_iff_toNat.1 hc
  obtain ⟨hd, -⟩ := Char.isDigit_iff_toNat.1 hd
  have hlt : c < d ↔ c.toNat < d.toNat := by
    rw [Char.lt_def, UInt32.lt_iff_toNat_lt, Char.toNat_val, Char.toNat_val]
  rw [digitValue, digitValue, hlt]
  omega

/-- The value of a digit is less than ten. -/
theorem digitValue_lt_ten (hc : c.isDigit = true) : digitValue c < 10 := by
  have hzero : '0'.toNat = 48 := rfl
  have hnine : '9'.toNat = 57 := rfl
  obtain ⟨-, hc⟩ := Char.isDigit_iff_toNat.1 hc
  rw [digitValue]
  omega

/-! ## Numerals in order -/

/-- A numeral read after a lesser number writes a lesser number than one that is as long. -/
theorem foldl_digits_lt {m n : Nat} (hlength : cs.length = ds.length)
    (hcs : ∀ c ∈ cs, c.isDigit = true)
    (hlt : m < n) : cs.foldl (fun n c => 10 * n + digitValue c) m <
      ds.foldl (fun n c => 10 * n + digitValue c) n := by
  induction cs generalizing ds m n with
  | nil =>
    rw [List.eq_nil_of_length_eq_zero hlength.symm]
    exact hlt
  | cons c cs ih =>
    obtain _ | ⟨d, ds⟩ := ds
    · cases hlength
    have hten := digitValue_lt_ten (hcs c (.head _))
    have hvalues : 10 * m + digitValue c < 10 * n + digitValue d := by omega
    rw [List.foldl_cons, List.foldl_cons]
    exact ih (by simpa using hlength) (fun c hc => hcs c (.tail _ hc)) hvalues

/-- Numerals read after the same number are in the order of texts. -/
theorem foldl_digits_lt_iff (m : Nat) (hcs : IsNumeral width cs) (hds : IsNumeral width ds) :
    cs.foldl (fun n c => 10 * n + digitValue c) m < ds.foldl (fun n c => 10 * n + digitValue c) m ↔
      cs < ds := by
  obtain ⟨hlength, hcs⟩ := hcs
  obtain ⟨hlength', hds⟩ := hds
  induction cs generalizing ds m width with
  | nil =>
    rw [List.eq_nil_of_length_eq_zero (hlength'.trans hlength.symm)]
    simp
  | cons c cs ih =>
    obtain _ | ⟨d, ds⟩ := ds
    · rw [← hlength'] at hlength
      cases hlength
    have hsame : cs.length = ds.length := Nat.succ.inj (hlength.trans hlength'.symm)
    have hc := hcs c (.head _)
    have hd := hds d (.head _)
    replace hcs : ∀ c ∈ cs, c.isDigit = true := fun c hc => hcs c (.tail _ hc)
    replace hds : ∀ d ∈ ds, d.isDigit = true := fun d hd => hds d (.tail _ hd)
    rw [List.cons_lt_cons_iff, List.foldl_cons, List.foldl_cons]
    rcases lt_trichotomy c d with hlt | rfl | hgt
    · have hvalue := (digitValue_lt_iff hc hd).2 hlt
      exact iff_of_true (foldl_digits_lt hsame hcs (by omega)) (.inl hlt)
    · rw [ih _ hsame hcs rfl hds]
      simp
    · have hvalue := (digitValue_lt_iff hd hc).2 hgt
      refine iff_of_false (foldl_digits_lt hsame.symm hds (by omega)).asymm ?_
      rintro (hlt | ⟨rfl, -⟩)
      · exact hgt.asymm hlt
      · exact absurd hgt (lt_irrefl c)

/-- Numerals with equally many digits are in the order of the numbers that they write. -/
theorem ofDigits_lt_iff (hcs : IsNumeral width cs) (hds : IsNumeral width ds) :
    ofDigits cs < ofDigits ds ↔ cs < ds :=
  foldl_digits_lt_iff 0 hcs hds

/-- Numerals with equally many digits that write one number are the same. -/
theorem ofDigits_inj (hcs : IsNumeral width cs) (hds : IsNumeral width ds) :
    ofDigits cs = ofDigits ds ↔ cs = ds := by
  refine ⟨fun heq => ?_, congrArg ofDigits⟩
  rcases lt_trichotomy cs ds with hlt | heq' | hgt
  · exact absurd heq ((ofDigits_lt_iff hcs hds).2 hlt).ne
  · exact heq'
  · exact absurd heq ((ofDigits_lt_iff hds hcs).2 hgt).ne'

/-- A numeral writes a number that has no more digits. -/
theorem ofDigits_lt (hcs : IsNumeral width cs) : ofDigits cs < 10 ^ width := by
  suffices hgeneral : ∀ m, cs.foldl (fun n c => 10 * n + digitValue c) m < (m + 1) * 10 ^ width by
    simpa [ofDigits] using hgeneral 0
  obtain ⟨rfl, hcs⟩ := hcs
  induction cs with
  | nil => simp
  | cons c cs ih =>
    intro m
    have hten := digitValue_lt_ten (hcs c (.head _))
    have hrest := ih (fun c hc => hcs c (.tail _ hc)) (10 * m + digitValue c)
    have hstep : 10 * m + digitValue c + 1 ≤ (m + 1) * 10 := by omega
    calc (c :: cs).foldl (fun n c => 10 * n + digitValue c) m
        < (10 * m + digitValue c + 1) * 10 ^ cs.length := hrest
      _ ≤ (m + 1) * 10 * 10 ^ cs.length := Nat.mul_le_mul_right _ hstep
      _ = (m + 1) * 10 ^ (c :: cs).length := by
        rw [List.length_cons, Nat.pow_succ', Nat.mul_assoc]

/-! ## The numeral of a number -/

/-- The last digits of a number, with leading zeros where it has fewer. -/
def numeral : (width n : Nat) → List Char
  | 0, _ => []
  | width + 1, n => numeral width (n / 10) ++ [Nat.digitChar (n % 10)]

/-- The numeral of a number has as many digits as are asked for. -/
theorem isNumeral_numeral (width n : Nat) : IsNumeral width (numeral width n) := by
  induction width generalizing n with
  | zero => exact ⟨rfl, fun _ h => nomatch h⟩
  | succ width ih =>
    obtain ⟨hlength, hdigits⟩ := ih (n / 10)
    constructor
    · rw [numeral, List.length_append, hlength]
      rfl
    · intro c hc
      rcases List.mem_append.1 hc with hc | hc
      · exact hdigits c hc
      · rw [List.mem_singleton.1 hc, Nat.isDigit_digitChar]
        exact decide_eq_true (Nat.mod_lt n (by decide))

/-- The numeral of a number that has no more digits writes it. -/
theorem ofDigits_numeral {n : Nat} (h : n < 10 ^ width) : ofDigits (numeral width n) = n := by
  induction width generalizing n with
  | zero =>
    have hzero : n = 0 := by simpa using h
    rw [hzero]
    rfl
  | succ width ih =>
    have hlast : digitValue (Nat.digitChar (n % 10)) = n % 10 := by
      rw [digitValue, Nat.toNat_digitChar_of_lt_ten (Nat.mod_lt n (by decide))]
      exact Nat.add_sub_cancel_left ..
    have hrest := ih (n := n / 10) (by rw [Nat.pow_succ] at h; omega)
    rw [ofDigits] at hrest
    rw [ofDigits, numeral, List.foldl_append, hrest, List.foldl_cons, List.foldl_nil, hlast]
    exact Nat.div_add_mod n 10

end Dossier.Text
