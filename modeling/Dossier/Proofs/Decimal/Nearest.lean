import Dossier.Proofs.Decimal.Parts

/-!
# Rounding to the nearest double

The rationals that round to a double are those of an interval around it (`RoundsTo`): halfway to
its neighbours, of which the one below a power of two is half as far away, and with the ends if its
significand is even. `nearest` finds the double for every quotient in its interval (`nearest_eq`),
and `ofScaled` for every decimal in it (`ofScaled_eq`).
-/

namespace Dossier.Decimal

variable {m n a b f num den : Nat} {q : Int} {y : ℚ}

/-- The power of ten, as the library writes it. -/
theorem tenTo_eq (n : Nat) : tenTo n = 10 ^ n := rfl

/-! ## Intervals -/

/-- How far the interval of a double reaches down, in units of its exponent. -/
def reach (m : Nat) (q : Int) : ℚ := if m = 2 ^ 52 ∧ -1074 < q then 1 / 4 else 1 / 2

/-- A rational that rounds to `m · 2 ^ q`. -/
structure RoundsTo (m : Nat) (q : Int) (y : ℚ) : Prop where
  low : (m - reach m q) * 2 ^ q ≤ y
  high : y ≤ (m + 1 / 2) * 2 ^ q
  inner : m % 2 = 1 → (m - reach m q) * 2 ^ q < y ∧ y < (m + 1 / 2) * 2 ^ q

/-! ## Quotients -/

/-- A quotient within half a unit of a number is rounded to it, at half a unit if the number is
even. -/
theorem roundQuotient_eq (hb : 0 < b) (hlow : 2 * f * b ≤ 2 * a + b)
    (hhigh : 2 * a ≤ 2 * f * b + b)
    (hodd : f % 2 = 1 → 2 * f * b < 2 * a + b ∧ 2 * a < 2 * f * b + b) :
    roundQuotient a b = f := by
  have hdiv : b * (a / b) + a % b = a := Nat.div_add_mod a b
  have hmod : a % b < b := Nat.mod_lt a hb
  unfold roundQuotient
  generalize a / b = g at *
  generalize a % b = r at *
  have hcases : f = g ∨ f = g + 1 := by
    by_contra hne
    rcases Nat.lt_or_ge f g with hlt | hge
    · have hstep : (f + 1) * b ≤ g * b := Nat.mul_le_mul_right b hlt
      nlinarith
    · have hstep : (g + 2) * b ≤ f * b := Nat.mul_le_mul_right b (by omega)
      nlinarith
  rcases hcases with rfl | rfl
  · have hbelow : ¬(2 * r > b || (2 * r == b && f % 2 == 1)) := by
      have hproduct : 2 * f * b = 2 * (b * f) := by ring
      rw [hproduct] at hhigh hodd
      simp only [Bool.or_eq_true, Bool.and_eq_true, decide_eq_true_eq, beq_iff_eq]
      omega
    rw [if_neg hbelow]
  · have habove : 2 * r > b || (2 * r == b && g % 2 == 1) := by
      have hproduct : 2 * (g + 1) * b = 2 * (b * g) + 2 * b := by ring
      rw [hproduct] at hlow hodd
      simp only [Bool.or_eq_true, Bool.and_eq_true, decide_eq_true_eq, beq_iff_eq]
      omega
    rw [if_pos habove]

/-- The same quotient in units of a power of two. -/
theorem inUnits_spec (num : Nat) (hden : 0 < den) (q : Int) : 0 < (inUnits num den q).2 ∧
    ((inUnits num den q).1 : ℚ) = num / den / 2 ^ q * (inUnits num den q).2 := by
  have hne : (den : ℚ) ≠ 0 := by exact_mod_cast hden.ne'
  unfold inUnits
  split
  case isTrue hge =>
    obtain ⟨n, rfl⟩ := Int.eq_ofNat_of_zero_le hge
    refine ⟨Nat.mul_pos hden (Nat.two_pow_pos n), ?_⟩
    rw [Int.toNat_natCast, twoTo_eq, zpow_natCast]
    push_cast
    field_simp
  case isFalse hlt =>
    obtain ⟨n, hn⟩ := Int.eq_ofNat_of_zero_le (by omega : 0 ≤ -q)
    obtain rfl : q = -n := by omega
    refine ⟨hden, ?_⟩
    rw [neg_neg, Int.toNat_natCast, twoTo_eq]
    push_cast
    rw [zpow_neg, zpow_natCast]
    field_simp

/-- The exponent for which a quotient has fifty-three binary digits before its point. -/
def leading (num den : Nat) : Int :=
  let guess : Int := (num.log2 : Int) - den.log2 - 52
  if (inUnits num den guess).1 / (inUnits num den guess).2 < twoTo 52 then guess - 1 else guess

/-- A quotient is rounded in units of that exponent, unless this is less than the least. -/
theorem nearest_of_ne_zero (h : num ≠ 0) : nearest num den =
    let q := max (leading num den) (-1074)
    let f := roundQuotient (inUnits num den q).1 (inUnits num den q).2
    if f = 2 ^ 53 then assemble (2 ^ 52) (q + 1) else assemble f q := by
  rw [nearest, if_neg (by simpa using h)]
  simp only [beq_iff_eq]
  rfl

/-- A quotient has fifty-three binary digits before its point in units of its leading exponent. -/
theorem leading_spec (hnum : 0 < num) (hden : 0 < den) :
    2 ^ 52 * 2 ^ leading num den ≤ (num / den : ℚ) ∧
    (num / den : ℚ) < 2 ^ 53 * 2 ^ leading num den := by
  have hnumLow : (2 : ℚ) ^ num.log2 ≤ num := by exact_mod_cast Nat.log2_self_le hnum.ne'
  have hnumHigh : (num : ℚ) < 2 ^ (num.log2 + 1) := by exact_mod_cast Nat.lt_log2_self
  have hdenLow : (2 : ℚ) ^ den.log2 ≤ den := by exact_mod_cast Nat.log2_self_le hden.ne'
  have hdenHigh : (den : ℚ) < 2 ^ (den.log2 + 1) := by exact_mod_cast Nat.lt_log2_self
  have hpos : (0 : ℚ) < den := by exact_mod_cast hden
  set guess : Int := (num.log2 : Int) - den.log2 - 52 with hdef
  have hguess : (2 : ℚ) ^ guess = 2 ^ num.log2 / 2 ^ den.log2 / 2 ^ 52 := by
    rw [zpow_sub₀ two_ne_zero, zpow_sub₀ two_ne_zero, zpow_natCast, zpow_natCast]
    rfl
  have hlow : 2 ^ 51 * 2 ^ guess ≤ (num / den : ℚ) := by
    calc (2 : ℚ) ^ 51 * 2 ^ guess = 2 ^ num.log2 / 2 ^ (den.log2 + 1) := by
          rw [hguess, pow_succ _ den.log2]
          field_simp
      _ ≤ num / den := div_le_div₀ (Nat.cast_nonneg num) hnumLow hpos hdenHigh.le
  have hhigh : (num / den : ℚ) < 2 ^ 53 * 2 ^ guess := by
    calc (num / den : ℚ) < 2 ^ (num.log2 + 1) / 2 ^ den.log2 :=
          div_lt_div₀ hnumHigh hdenLow (by positivity) (by positivity)
      _ = 2 ^ 53 * 2 ^ guess := by
          rw [hguess, pow_succ _ num.log2]
          field_simp
  obtain ⟨hunit, hquotient⟩ := inUnits_spec num hden guess
  have hcompare : (inUnits num den guess).1 / (inUnits num den guess).2 < twoTo 52 ↔
      (num / den : ℚ) < 2 ^ 52 * 2 ^ guess := by
    have hcast : (0 : ℚ) < (inUnits num den guess).2 := by exact_mod_cast hunit
    rw [Nat.div_lt_iff_lt_mul hunit, twoTo_eq, ← Nat.cast_lt (α := ℚ), hquotient, Nat.cast_mul,
      Nat.cast_pow, mul_lt_mul_iff_of_pos_right hcast, div_lt_iff₀ (by positivity)]
    rfl
  have hhalf : (2 : ℚ) ^ (guess - 1) = 2 ^ guess / 2 := by
    rw [zpow_sub₀ two_ne_zero, zpow_one]
  unfold leading
  simp only [← hdef, hcompare]
  split
  case isTrue hlt =>
    rw [hhalf]
    constructor <;> linarith
  case isFalse hge => exact ⟨not_lt.1 hge, hhigh⟩

/-- A quotient within half a unit of a number is rounded to it, at half a unit if the number is
even. -/
theorem roundQuotient_inUnits (hden : 0 < den) (hlow : (f - 1 / 2) * 2 ^ q ≤ (num / den : ℚ))
    (hhigh : (num / den : ℚ) ≤ (f + 1 / 2) * 2 ^ q)
    (hodd : f % 2 = 1 → (f - 1 / 2) * 2 ^ q < (num / den : ℚ) ∧
      (num / den : ℚ) < (f + 1 / 2) * 2 ^ q) :
    roundQuotient (inUnits num den q).1 (inUnits num den q).2 = f := by
  obtain ⟨hunit, hquotient⟩ := inUnits_spec num hden q
  have hpower : (0 : ℚ) < 2 ^ q := by positivity
  have hcast : (0 : ℚ) < (inUnits num den q).2 := by exact_mod_cast hunit
  rw [← le_div_iff₀ hpower] at hlow
  rw [← div_le_iff₀ hpower] at hhigh
  rw [← lt_div_iff₀ hpower, ← div_lt_iff₀ hpower] at hodd
  generalize (num / den / 2 ^ q : ℚ) = u at *
  generalize (inUnits num den q).1 = a at *
  generalize (inUnits num den q).2 = b at *
  apply roundQuotient_eq hunit
  · have hle : (2 * f * b : ℚ) ≤ 2 * a + b := by nlinarith
    exact_mod_cast hle
  · have hle : (2 * a : ℚ) ≤ 2 * f * b + b := by nlinarith
    exact_mod_cast hle
  · intro hf
    obtain ⟨hlow, hhigh⟩ := hodd hf
    have hlt : (2 * f * b : ℚ) < 2 * a + b := by nlinarith
    have hgt : (2 * a : ℚ) < 2 * f * b + b := by nlinarith
    exact ⟨by exact_mod_cast hlt, by exact_mod_cast hgt⟩

/-! ## The nearest double -/

theorem reach_le (m : Nat) (q : Int) : reach m q ≤ 1 / 2 := by
  unfold reach
  split <;> norm_num

/-- What rounds to a positive double is positive. -/
theorem RoundsTo.pos (h : RoundsTo m q y) (hm : 0 < m) : 0 < y := by
  have hone : (1 : ℚ) ≤ m := by exact_mod_cast hm
  have hreach := reach_le m q
  exact lt_of_lt_of_le (mul_pos (by linarith) (by positivity)) h.low

/-- What rounds to a double and is less than the powers of two from its exponent up lies just below
a power. -/
theorem RoundsTo.of_lt {q' : Int} (h : RoundsTo m q y) (hnormal : IsNormal m q)
    (hleast : -1074 ≤ q') (hlt : q' < q)
    (hy : y < 2 ^ 53 * 2 ^ q') : m = 2 ^ 52 ∧ q = q' + 1 ∧ (2 ^ 53 - 1 / 2) * 2 ^ q' ≤ y := by
  have hpower : (0 : ℚ) < 2 ^ q := by positivity
  have hnext : (2 : ℚ) ^ (q' + 1) = 2 * 2 ^ q' := by rw [zpow_add_one₀ two_ne_zero, mul_comm]
  have hmono : (2 : ℚ) ^ (q' + 1) ≤ 2 ^ q := zpow_le_zpow_right₀ one_le_two hlt
  have hlow := h.low
  have hm : m = 2 ^ 52 := by
    have hbits : 2 ^ 52 ≤ m := hnormal.leading.resolve_right (by omega)
    have hbelow : (m - reach m q) * 2 ^ q < (2 ^ 52 : ℚ) * 2 ^ q := by linarith
    have hreach := reach_le m q
    have hcast : (m : ℚ) < (2 ^ 52 + 1 : ℕ) := by
      push_cast
      linarith [lt_of_mul_lt_mul_right hbelow hpower.le]
    have hbits' : m < 2 ^ 52 + 1 := by exact_mod_cast hcast
    omega
  have hreach : reach m q = 1 / 4 := if_pos ⟨hm, by omega⟩
  rw [hreach, hm] at hlow
  push_cast at hlow
  obtain rfl | hgap : q = q' + 1 ∨ q' + 2 ≤ q := by omega
  · rw [hnext] at hlow
    exact ⟨hm, rfl, by linarith⟩
  · have hfar : (2 : ℚ) ^ (q' + 2) ≤ 2 ^ q := zpow_le_zpow_right₀ one_le_two hgap
    rw [zpow_add₀ two_ne_zero] at hfar
    norm_num at hfar
    linarith

/-- **A quotient is rounded to the double in whose interval it lies.** -/
theorem nearest_eq (hnormal : IsNormal m q) (hm : 0 < m) (hden : 0 < den)
    (h : RoundsTo m q (num / den)) : nearest num den = assemble m q := by
  have hnum : 0 < num := by
    rcases Nat.eq_zero_or_pos num with rfl | hnum
    · exact absurd (h.pos hm) (by simp)
    · exact hnum
  obtain ⟨hlow, hhigh⟩ := leading_spec hnum hden
  rw [nearest_of_ne_zero hnum.ne']
  have hleading := le_max_left (leading num den) (-1074)
  have hleast := le_max_right (leading num den) (-1074)
  have hchoice := max_choice (leading num den) (-1074)
  generalize max (leading num den) (-1074) = q' at *
  have hbelow : (num / den : ℚ) < 2 ^ 53 * 2 ^ q' := by
    have hmono : (2 : ℚ) ^ leading num den ≤ 2 ^ q' := zpow_le_zpow_right₀ one_le_two hleading
    linarith
  have hpower : (0 : ℚ) < 2 ^ q := by positivity
  rcases lt_trichotomy q' q with hlt | heq | hgt
  · -- Just below the power of two the units are halves, and the quotient is rounded up to the
    -- power.
    obtain ⟨rfl, rfl, hhalf⟩ := h.of_lt hnormal hleast hlt hbelow
    have hpower' : (0 : ℚ) < 2 ^ q' := by positivity
    have hround : roundQuotient (inUnits num den q').1 (inUnits num den q').2 = 2 ^ 53 := by
      apply roundQuotient_inUnits hden
      · push_cast
        exact hhalf
      · push_cast
        linarith
      · exact fun hodd => absurd hodd (by norm_num)
    simp only [hround, if_true]
  · have hreach := mul_le_mul_of_nonneg_right (reach_le m q) hpower.le
    have hround : roundQuotient (inUnits num den q).1 (inUnits num den q).2 = m := by
      apply roundQuotient_inUnits hden _ h.high
      · intro hodd
        obtain ⟨hlow, hhigh⟩ := h.inner hodd
        exact ⟨by linarith, hhigh⟩
      · linarith [h.low]
    have hlt := hnormal.lt
    rw [heq]
    simp only [hround]
    exact if_neg (by omega)
  · -- Larger units are for quotients beyond the largest significand.
    exfalso
    have hlarge : q' = leading num den := hchoice.resolve_right (by have := hnormal.least; omega)
    rw [← hlarge] at hlow
    have hmono : (2 : ℚ) ^ (q + 1) ≤ 2 ^ q' := zpow_le_zpow_right₀ one_le_two hgt
    rw [zpow_add_one₀ two_ne_zero] at hmono
    have hcast : (m + 1 : ℚ) ≤ 2 ^ 53 := by exact_mod_cast hnormal.lt
    nlinarith [h.high]

/-! ## The double nearest to a decimal -/

/-- A number is less than the power of ten with as many zeros as it has digits. -/
theorem lt_tenTo_length (n : Nat) : n < 10 ^ (Nat.toDigits 10 n).length :=
  (Nat.length_toDigits_le_iff (by decide) Nat.length_toDigits_pos).1 le_rfl

/-- A positive number is no less than the power of ten with as many digits. -/
theorem tenTo_length_le (hn : 0 < n) : 10 ^ ((Nat.toDigits 10 n).length - 1) ≤ n := by
  rcases Nat.eq_zero_or_pos ((Nat.toDigits 10 n).length - 1) with hone | hmore
  · rwa [hone]
  · by_contra hlt
    have hshort := (Nat.length_toDigits_le_iff (by decide) hmore).2 (not_le.1 hlt)
    have hpos := Nat.length_toDigits_pos (b := 10) (n := n)
    omega

/-- A power of ten below the least double. -/
theorem tenTo_le_twoTo : (10 : ℚ) ^ (-330 : Int) ≤ 2 ^ (-1075 : Int) := by
  have hnat : 2 ^ 1075 ≤ 10 ^ 330 := by decide +kernel
  have hcast : (2 : ℚ) ^ 1075 ≤ 10 ^ 330 := by exact_mod_cast hnat
  rw [zpow_neg, zpow_neg]
  exact inv_anti₀ (by positivity) hcast

/-- A power of ten above the doubles. -/
theorem twoTo_le_tenTo : (2 : ℚ) ^ (1024 : Int) ≤ 10 ^ (309 : Int) := by
  have hnat : 2 ^ 1024 ≤ 10 ^ 309 := by decide +kernel
  have hcast : (2 : ℚ) ^ 1024 ≤ 10 ^ 309 := by exact_mod_cast hnat
  exact hcast

/-- What rounds to a positive double is not too small. -/
theorem RoundsTo.le (h : RoundsTo m q y) (hnormal : IsNormal m q) (hm : 0 < m) :
    (2 : ℚ) ^ (-1075 : Int) ≤ y := by
  have hone : (1 : ℚ) ≤ m := by exact_mod_cast hm
  have hreach := reach_le m q
  have hmono : (2 : ℚ) ^ (-1074 : Int) ≤ 2 ^ q := zpow_le_zpow_right₀ one_le_two hnormal.least
  calc (2 : ℚ) ^ (-1075 : Int) = 1 / 2 * 2 ^ (-1074 : Int) := by
        rw [show (-1075 : Int) = -1074 - 1 from rfl, zpow_sub_one₀ two_ne_zero]
        ring
    _ ≤ (m - reach m q) * 2 ^ q := mul_le_mul (by linarith) hmono (by positivity) (by linarith)
    _ ≤ y := h.low

/-- What rounds to a double is not too large. -/
theorem RoundsTo.lt (h : RoundsTo m q y) (hnormal : IsNormal m q) :
    y < (2 : ℚ) ^ (1024 : Int) := by
  have hcast : (m + 1 : ℚ) ≤ 2 ^ 53 := by exact_mod_cast hnormal.lt
  have hmono : (2 : ℚ) ^ q ≤ 2 ^ (971 : Int) := zpow_le_zpow_right₀ one_le_two hnormal.most
  calc y ≤ (m + 1 / 2) * 2 ^ q := h.high
    _ < 2 ^ 53 * 2 ^ q := by
        have hpower : (0 : ℚ) < 2 ^ q := by positivity
        exact mul_lt_mul_of_pos_right (by linarith) hpower
    _ ≤ 2 ^ 53 * 2 ^ (971 : Int) := mul_le_mul_of_nonneg_left hmono (by positivity)
    _ = 2 ^ (1024 : Int) := by
        rw [show (1024 : Int) = (53 : Nat) + 971 from rfl, zpow_add₀ two_ne_zero, zpow_natCast]

/-- A positive decimal lies between the powers of ten of its length. -/
theorem decimal_between {digits : Nat} (hdigits : 0 < digits) (exponent : Int) :
    (10 : ℚ) ^ ((Nat.toDigits 10 digits).length - 1 + exponent) ≤ digits * 10 ^ exponent ∧
      (digits * 10 ^ exponent : ℚ) < 10 ^ ((Nat.toDigits 10 digits).length + exponent) := by
  have hten : (10 : ℚ) ≠ 0 := by norm_num
  have hpower : (0 : ℚ) < 10 ^ exponent := by positivity
  have hlength : 0 < (Nat.toDigits 10 digits).length := Nat.length_toDigits_pos
  constructor
  · rw [zpow_add₀ hten, ← Nat.cast_pred hlength, zpow_natCast]
    exact mul_le_mul_of_nonneg_right (by exact_mod_cast tenTo_length_le hdigits) hpower.le
  · rw [zpow_add₀ hten, zpow_natCast]
    exact mul_lt_mul_of_pos_right (by exact_mod_cast lt_tenTo_length digits) hpower

/-- The length of a decimal that rounds to a positive double does not lead out of the range of
doubles. -/
theorem RoundsTo.length_mem {digits : Nat} {exponent : Int} (hnormal : IsNormal m q) (hm : 0 < m)
    (h : RoundsTo m q (digits * 10 ^ exponent)) (hdigits : 0 < digits) :
    -330 < (Nat.toDigits 10 digits).length + exponent ∧
    (Nat.toDigits 10 digits).length + exponent ≤ 310 := by
  obtain ⟨hlower, hupper⟩ := decimal_between hdigits exponent
  have hone : (1 : ℚ) < 10 := by norm_num
  constructor
  · rw [← zpow_lt_zpow_iff_right₀ hone]
    exact tenTo_le_twoTo.trans_lt ((h.le hnormal hm).trans_lt hupper)
  · have hless : ((Nat.toDigits 10 digits).length : Int) - 1 + exponent < 309 := by
      rw [← zpow_lt_zpow_iff_right₀ hone]
      exact hlower.trans_lt ((h.lt hnormal).trans_le twoTo_le_tenTo)
    omega

/-- **A decimal is rounded to the positive double in whose interval it lies.** -/
theorem ofScaled_eq {digits : Nat} {exponent : Int} (hnormal : IsNormal m q) (hm : 0 < m)
    (h : RoundsTo m q (digits * 10 ^ exponent)) : ofScaled digits exponent = assemble m q := by
  have hdigits : 0 < digits := by
    rcases Nat.eq_zero_or_pos digits with rfl | hdigits
    · exact absurd (h.pos hm) (by simp)
    · exact hdigits
  obtain ⟨hleast, hmost⟩ := h.length_mem hnormal hm hdigits
  unfold ofScaled
  have hnotSmall :
      ¬(digits == 0 || decide (((Nat.toDigits 10 digits).length : Int) + exponent < -330)) =
        true := by
    simp only [Bool.or_eq_true, beq_iff_eq, decide_eq_true_eq]
    omega
  simp only [if_neg hnotSmall, if_neg (not_lt.2 hmost)]
  split
  case isTrue hge =>
    obtain ⟨n, rfl⟩ := Int.eq_ofNat_of_zero_le hge
    apply nearest_eq hnormal hm Nat.one_pos
    rw [Int.toNat_natCast, tenTo_eq]
    rw [zpow_natCast] at h
    push_cast
    rwa [div_one]
  case isFalse hlt =>
    obtain ⟨n, hn⟩ := Int.eq_ofNat_of_zero_le (by omega : 0 ≤ -exponent)
    obtain rfl : exponent = -n := by omega
    rw [neg_neg, Int.toNat_natCast, tenTo_eq]
    apply nearest_eq hnormal hm (by positivity)
    rw [zpow_neg, zpow_natCast, ← div_eq_mul_inv] at h
    push_cast
    exact h

end Dossier.Decimal
