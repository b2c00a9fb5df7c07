import Dossier.Proofs.Decimal.Nearest

/-!
# The shortest decimal rounds to its double

The decimals that `shortest` tests are those of a grid, and one passes if it rounds to the double
(`contains_onGrid`). On a grid of seventeen digits a step is less than the interval of the double
is wide, so that one of the neighbours of the double always passes (`exists_hit`). Hence what
`shortest` answers with rounds to the double (`roundsTo_shortest`).
-/

namespace Dossier.Decimal

variable {m n num den : Nat} {q s : Int} {d : Scaled}

/-- The rational that a decimal stands for. -/
def Scaled.value (d : Scaled) : ℚ := d.digits * 10 ^ d.exponent

/-- A decimal stands for the same without the zeros that its digits end with. -/
theorem Scaled.value_strip (d : Scaled) : d.strip.value = d.value := by
  fun_induction Scaled.strip d with
  | case1 d hzero => rfl
  | case2 d hzero hten ih =>
    rw [ih]
    have hdigits : 10 * (d.digits / 10) = d.digits := by
      have hmod := beq_iff_eq.1 hten
      omega
    have hcast : (10 : ℚ) * (d.digits / 10 : ℕ) = d.digits := by exact_mod_cast hdigits
    rw [Scaled.value, Scaled.value, zpow_add_one₀ (by norm_num), ← hcast]
    ring
  | case3 d hzero hten => rfl

/-! ## Grids -/

/-- A power with an integer exponent is a quotient of powers with natural exponents. -/
theorem pow_toNat {b : ℚ} (hb : b ≠ 0) (s : Int) : b ^ s.toNat = b ^ (-s).toNat * b ^ s := by
  rw [← zpow_natCast, ← zpow_natCast, ← zpow_add₀ hb]
  congr 1
  omega

/-- Where the interval of a double begins, in quarters of a unit. -/
theorem cast_low (hm : 0 < m) (q : Int) :
    ((4 * m - if m == twoTo 52 && q > -1074 then 1 else 2 : ℕ) : ℚ) = 4 * (m - reach m q) := by
  have hcondition : (m == twoTo 52 && q > -1074) = true ↔ m = 2 ^ 52 ∧ -1074 < q := by
    rw [Bool.and_eq_true, beq_iff_eq, decide_eq_true_eq, twoTo_eq]
  unfold reach
  simp only [hcondition]
  split
  · rw [Nat.cast_sub (by omega)]
    push_cast
    ring
  · rw [Nat.cast_sub (by omega)]
    push_cast
    ring

/-- The interval of a double on a grid. -/
theorem onGrid_spec (hm : 0 < m) (q s : Int) : let g := (Interval.of m q).onGrid s
    0 < g.den ∧ (g.value : ℚ) = m * 2 ^ q / 10 ^ s * g.den ∧
      (g.low : ℚ) = (m - reach m q) * 2 ^ q / 10 ^ s * g.den ∧
      (g.high : ℚ) = (m + 1 / 2) * 2 ^ q / 10 ^ s * g.den := by
  intro g
  have hten := pow_toNat (by norm_num : (10 : ℚ) ≠ 0) s
  have htwo := pow_toNat (two_ne_zero : (2 : ℚ) ≠ 0) (q - 2)
  rw [neg_sub, zpow_sub₀ two_ne_zero] at htwo
  have hden : g.den = 2 ^ (2 - q).toNat * 10 ^ s.toNat := rfl
  have hunit : ((2 ^ (q - 2).toNat * 10 ^ (-s).toNat : ℕ) : ℚ) = 2 ^ q / 10 ^ s * g.den / 4 := by
    rw [hden]
    push_cast
    rw [hten, htwo]
    field_simp
    norm_num
  have hvalue : g.value = 4 * m * (2 ^ (q - 2).toNat * 10 ^ (-s).toNat) := Nat.mul_assoc ..
  have hhigh : g.high = (4 * m + 2) * (2 ^ (q - 2).toNat * 10 ^ (-s).toNat) := Nat.mul_assoc ..
  have hlow : g.low = (4 * m - if m == twoTo 52 && q > -1074 then 1 else 2) *
      (2 ^ (q - 2).toNat * 10 ^ (-s).toNat) := Nat.mul_assoc ..
  generalize 2 ^ (q - 2).toNat * 10 ^ (-s).toNat = unit at *
  refine ⟨by rw [hden]; positivity, ?_, ?_, ?_⟩
  · rw [hvalue]
    push_cast
    rw [hunit]
    ring
  · rw [hlow, Nat.cast_mul, cast_low hm, hunit]
    ring
  · rw [hhigh]
    push_cast
    rw [hunit]
    ring

/-- A decimal of a grid is tested for being one that rounds to the double. -/
theorem contains_onGrid (hm : 0 < m) : let g := (Interval.of m q).onGrid s
    g.contains (n * g.den) = true ↔ RoundsTo m q (n * 10 ^ s) := by
  intro g
  obtain ⟨hden, -, hlow, hhigh⟩ := onGrid_spec hm q s
  have hpositive : (0 : ℚ) < g.den := by exact_mod_cast hden
  have hpower : (0 : ℚ) < 10 ^ s := by positivity
  have hclosed : g.closed = (m % 2 == 0) := rfl
  have hle : g.low ≤ n * g.den ↔ (m - reach m q) * 2 ^ q ≤ (n * 10 ^ s : ℚ) := by
    rw [← Nat.cast_le (α := ℚ), hlow, Nat.cast_mul, mul_le_mul_iff_of_pos_right hpositive,
      div_le_iff₀ hpower]
  have hge : n * g.den ≤ g.high ↔ (n * 10 ^ s : ℚ) ≤ (m + 1 / 2) * 2 ^ q := by
    rw [← Nat.cast_le (α := ℚ), hhigh, Nat.cast_mul, mul_le_mul_iff_of_pos_right hpositive,
      le_div_iff₀ hpower]
  have hlt : g.low < n * g.den ↔ (m - reach m q) * 2 ^ q < (n * 10 ^ s : ℚ) := by
    rw [← Nat.cast_lt (α := ℚ), hlow, Nat.cast_mul, mul_lt_mul_iff_of_pos_right hpositive,
      div_lt_iff₀ hpower]
  have hgt : n * g.den < g.high ↔ (n * 10 ^ s : ℚ) < (m + 1 / 2) * 2 ^ q := by
    rw [← Nat.cast_lt (α := ℚ), hhigh, Nat.cast_mul, mul_lt_mul_iff_of_pos_right hpositive,
      lt_div_iff₀ hpower]
  unfold Interval.contains
  rw [hclosed]
  rcases Nat.mod_two_eq_zero_or_one m with heven | hodd
  · simp only [heven, beq_self_eq_true, if_true, Bool.and_eq_true, decide_eq_true_eq, hle, hge]
    exact ⟨fun h => ⟨h.1, h.2, fun h => by omega⟩, fun h => ⟨h.low, h.high⟩⟩
  · simp only [hodd, Nat.one_ne_zero, beq_iff_eq, if_false, Bool.and_eq_true,
      decide_eq_true_eq, hlt, hgt]
    exact ⟨fun h => ⟨h.1.le, h.2.le, fun _ => h⟩, fun h => h.inner hodd⟩

/-- A neighbour of the double on a grid is answered with only if it rounds to the double. -/
theorem roundsTo_of_hit? (hm : 0 < m) (h : (Interval.of m q).hit? s = some d) :
    RoundsTo m q d.value := by
  simp only [Interval.hit?] at h
  split at h
  case h_1 hbelow habove =>
    split at h
    · cases h
      exact (contains_onGrid hm).1 hbelow
    · cases h
      exact (contains_onGrid hm).1 habove
  case h_2 hbelow _ =>
    cases h
    exact (contains_onGrid hm).1 hbelow
  case h_3 _ habove =>
    cases h
    exact (contains_onGrid hm).1 habove
  case h_4 => cases h

/-- A rational from the double up that does not round to it is beyond its interval. -/
theorem high_le {y : ℚ} (hy : m * 2 ^ q ≤ y) (hnot : ¬RoundsTo m q y) :
    (m + 1 / 2) * 2 ^ q ≤ y := by
  by_contra hlt
  have hpower : (0 : ℚ) < 2 ^ q := by positivity
  have hreach : 0 < reach m q := by
    unfold reach
    split <;> norm_num
  have hlow : (m - reach m q) * 2 ^ q < y := by nlinarith
  exact hnot ⟨hlow.le, (not_le.1 hlt).le, fun _ => ⟨hlow, not_le.1 hlt⟩⟩

/-- A rational up to the double that does not round to it is below its interval. -/
theorem le_low {y : ℚ} (hy : y ≤ m * 2 ^ q) (hnot : ¬RoundsTo m q y) :
    y ≤ (m - reach m q) * 2 ^ q := by
  by_contra hlt
  have hpower : (0 : ℚ) < 2 ^ q := by positivity
  have hhigh : y < (m + 1 / 2) * 2 ^ q := by linarith
  exact hnot ⟨(not_le.1 hlt).le, hhigh.le, fun _ => ⟨not_le.1 hlt, hhigh⟩⟩

/-- A double lies between its neighbours on a grid. -/
theorem between_neighbours (hm : 0 < m) (q s : Int) : let g := (Interval.of m q).onGrid s
    ((g.value / g.den : ℕ) * 10 ^ s : ℚ) ≤ m * 2 ^ q ∧
    (m * 2 ^ q : ℚ) ≤ (g.value / g.den + 1 : ℕ) * 10 ^ s := by
  intro g
  obtain ⟨hden, hvalue, -, -⟩ := onGrid_spec hm q s
  have hpositive : (0 : ℚ) < g.den := by exact_mod_cast hden
  have hpower : (0 : ℚ) < 10 ^ s := by positivity
  constructor
  · have hfloor : ((g.value / g.den * g.den : ℕ) : ℚ) ≤ g.value := by
      exact_mod_cast Nat.div_mul_le_self ..
    rwa [Nat.cast_mul, hvalue, mul_le_mul_iff_of_pos_right hpositive, le_div_iff₀ hpower] at hfloor
  · have hceiling : (g.value : ℚ) ≤ ((g.value / g.den + 1) * g.den : ℕ) := by
      exact_mod_cast (Nat.lt_mul_of_div_lt (Nat.lt_succ_self _) hden).le
    rwa [Nat.cast_mul, hvalue, mul_le_mul_iff_of_pos_right hpositive, div_le_iff₀ hpower]
      at hceiling

/-- The interval of a double is wider than a step of a grid on which the double has seventeen
digits. -/
theorem step_lt_width (hnormal : IsNormal m q) (hstep : (10 : ℚ) ^ s * 10 ^ 16 ≤ m * 2 ^ q) :
    (10 : ℚ) ^ s < (1 / 2 + reach m q) * 2 ^ q := by
  by_contra hwide
  have hunit : (0 : ℚ) < 2 ^ q := by positivity
  have hmost : (1 / 2 + reach m q) * 10 ^ 16 ≤ m := by
    rw [← mul_le_mul_iff_of_pos_right hunit]
    linarith [not_lt.1 hwide]
  have hlt : (m : ℚ) < 2 ^ 53 := by exact_mod_cast hnormal.lt
  unfold reach at hmost
  split at hmost
  case isTrue hpowerOfTwo =>
    rw [hpowerOfTwo.1] at hmost
    norm_num at hmost
  case isFalse =>
    norm_num at hmost hlt
    linarith

/-- A grid on which the double has seventeen digits has a neighbour that rounds to it. -/
theorem exists_hit (hnormal : IsNormal m q) (hm : 0 < m)
    (hstep : (10 : ℚ) ^ s * 10 ^ 16 ≤ m * 2 ^ q) : ∃ d, (Interval.of m q).hit? s = some d := by
  obtain ⟨hdown, hup⟩ := between_neighbours hm q s
  have hwide := step_lt_width hnormal hstep
  simp only [Interval.hit?]
  split
  case h_1 => split <;> exact ⟨_, rfl⟩
  case h_2 | h_3 => exact ⟨_, rfl⟩
  case h_4 hbelow habove =>
    have hfirst := le_low hdown fun h => by
      rw [(contains_onGrid hm).2 h] at hbelow
      cases hbelow
    have hsecond := high_le hup fun h => by
      rw [(contains_onGrid hm).2 h] at habove
      cases habove
    push_cast at hfirst hsecond
    linarith

/-! ## The shortest decimal -/

/-- A quotient is no less than the power of ten of its first digit. -/
theorem tenTo_magnitude_le (hnum : 0 < num) (hden : 0 < den) :
    (10 : ℚ) ^ magnitude num den ≤ num / den := by
  have hpositive : (0 : ℚ) < den := by exact_mod_cast hden
  unfold magnitude
  split
  case isTrue hge =>
    have hfloor := tenTo_length_le (Nat.div_pos hge hden)
    have hcount : 0 < digitCount (num / den) := Nat.length_toDigits_pos
    rw [← Nat.cast_pred hcount, zpow_natCast, le_div_iff₀ hpositive]
    have hle : 10 ^ (digitCount (num / den) - 1) * den ≤ num :=
      (Nat.mul_le_mul_right den hfloor).trans (Nat.div_mul_le_self ..)
    exact_mod_cast hle
  case isFalse hlt =>
    have hcount : 0 < digitCount (den / num) := Nat.length_toDigits_pos
    dsimp only
    split
    case isTrue hle =>
      rw [tenTo_eq] at hle
      rw [show (1 - digitCount (den / num) : Int) =
        -(digitCount (den / num) - 1 : ℕ) by omega, zpow_neg, zpow_natCast,
        inv_le_comm₀ (by positivity) (by positivity), inv_div, div_le_iff₀ (by positivity)]
      have hcast : den ≤ 10 ^ (digitCount (den / num) - 1) * num := by rwa [Nat.mul_comm]
      exact_mod_cast hcast
    case isFalse =>
      rw [zpow_neg, zpow_natCast, inv_le_comm₀ (by positivity) (by positivity), inv_div,
        div_le_iff₀ (by positivity)]
      have hle : den ≤ 10 ^ digitCount (den / num) * num :=
        (Nat.lt_mul_of_div_lt (lt_tenTo_length _) hnum).le
      exact_mod_cast hle

/-- **The shortest decimal of a positive double rounds to it.** -/
theorem roundsTo_shortest (hnormal : IsNormal m q) (hm : 0 < m) :
    RoundsTo m q (shortest m q).value := by
  have hone : (Interval.of m q).onGrid 0 = Interval.of m q := by simp [Interval.onGrid, tenTo_eq]
  obtain ⟨hden, hvalue, -, -⟩ := onGrid_spec hm q 0
  rw [hone] at hden hvalue
  rw [zpow_zero, div_one] at hvalue
  have hpositive : (0 : ℚ) < (Interval.of m q).den := by exact_mod_cast hden
  have hnum : 0 < (Interval.of m q).value := by
    have hcast : (0 : ℚ) < (Interval.of m q).value := by
      rw [hvalue]
      positivity
    exact_mod_cast hcast
  have hfirst := tenTo_magnitude_le hnum hden
  rw [hvalue, mul_div_cancel_right₀ _ hpositive.ne'] at hfirst
  generalize hmagnitude : magnitude (Interval.of m q).value (Interval.of m q).den = first at hfirst
  have hsome : ((List.range 17).findSome? fun n : Nat =>
      (Interval.of m q).hit? (first - n)).isSome = true := by
    rw [List.findSome?_isSome_iff]
    obtain ⟨d, hd⟩ := exists_hit (s := first - 16) hnormal hm <| by
      rw [zpow_sub₀ (by norm_num)]
      calc (10 : ℚ) ^ first / 10 ^ (16 : Int) * 10 ^ 16 = 10 ^ first :=
        div_mul_cancel₀ _ (by norm_num)
        _ ≤ m * 2 ^ q := hfirst
    exact ⟨16, by decide, by rw [Nat.cast_ofNat, hd]; rfl⟩
  obtain ⟨d, hd⟩ := Option.isSome_iff_exists.1 hsome
  obtain ⟨n, -, hhit⟩ := List.exists_of_findSome?_eq_some hd
  simp only [shortest, hmagnitude, hd, Scaled.value_strip]
  exact roundsTo_of_hit? hm hhit

end Dossier.Decimal
