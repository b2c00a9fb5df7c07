import Dossier.Proofs.Decimal.Nearest
import Dossier.Share

/-!
# Doubles of quotients

A share is shown as the double that the division of two counts gives. A count that is less than `2
^ 53` is a double (`ofNat_eq`), and what a division of doubles keeps of the quotient is enough to
round it (`Tells.roundedMantissa`), so a part of a whole is shown as a double from zero to one,
which is one only if the part is the whole (`Share.toFloat_mem`).
-/

namespace Dossier.Decimal

open Float.Model (Format UnpackedFloat totalExponent)
open Float.Model.UnpackedFloat

variable {a b f m n : Nat} {e : Int}

/-! ## Packing -/

/-- The exponent at which a significand has fifty-three digits, unless it is less than the
least. -/
theorem targetExponent_totalExponent (m : Nat) (e : Int) :
    Format.binary64.targetExponent (totalExponent m e) = max (m.log2 - 52 + e) (-1074) := by
  simp only [Format.targetExponent, totalExponent, Format.mantissaBits, Format.minExponent]
  omega

/-- A significand of fifty-three digits. -/
theorem log2_eq_of_normal (hlow : 2 ^ 52 ≤ m) (hhigh : m < 2 ^ 53) : m.log2 = 52 :=
  (Nat.log2_eq_iff (by omega)).2 ⟨hlow, hhigh⟩

/-- What has fifty-three digits and more is as large as that. -/
theorem log2_mem {k : Nat} (h : n.log2 = 52 + k) : 2 ^ (52 + k) ≤ n ∧ n < 2 ^ (52 + k + 1) := by
  have hne : n ≠ 0 := by
    rintro rfl
    rw [Nat.log2_zero] at h
    omega
  exact (Nat.log2_eq_iff hne).1 h

/-- A quotient has as many digits as its size says. -/
theorem log2_div {k : Nat} (hb : 0 < b) (hle : 2 ^ (52 + k) * b ≤ a)
    (hlt : a < 2 ^ (52 + k + 1) * b) : (a / b).log2 = 52 + k := by
  rw [← Nat.le_div_iff_mul_le hb] at hle
  rw [← Nat.div_lt_iff_lt_mul hb] at hlt
  exact (Nat.log2_eq_iff ((Nat.two_pow_pos _).trans_le hle).ne').2 ⟨hle, hlt⟩

/-- A significand of fifty-three digits is packed without its leading one, and its exponent with a
bias. -/
theorem pack_finite (hlow : 2 ^ 52 ≤ m) (hhigh : m < 2 ^ 53) (hleast : -1074 ≤ e) (hmost : e ≤ 971)
    (hm : 0 < m) : UnpackedFloat.pack .binary64 (.finite .positive m e hm) =
      packComponents .binary64 .positive (.ofNat 11 (e + 1075).toNat) (.ofNat 52 m) := by
  have hexponent : (e + Format.binary64.exponentBias +
      Format.binary64.mantissaBitsWithoutImplicit).toNat =
      (e + 1075).toNat := by
    show (e + (1023 : Nat) + (52 : Nat)).toNat = _
    omega
  have hrange : ¬2 ^ Format.binary64.exponentBits ≤ (e + 1075).toNat + 1 := by
    show ¬2 ^ 11 ≤ (e + 1075).toNat + 1
    omega
  simp only [UnpackedFloat.pack, hexponent, if_neg hrange, log2_eq_of_normal hlow hhigh]
  exact if_pos rfl

/-- The field of an exponent in the range of doubles tells it. -/
theorem toNat_exponentField (hleast : -1074 ≤ e) (hmost : e ≤ 971) :
    (BitVec.ofNat 11 (e + 1075).toNat).toNat = (e + 1075).toNat := by
  rw [BitVec.toNat_ofNat]
  omega

/-- It is not the field of what is infinite. -/
theorem exponentField_ne (hleast : -1074 ≤ e) (hmost : e ≤ 971) :
    BitVec.ofNat 11 (e + 1075).toNat ≠ -1#11 := by
  intro h
  have hfield := congrArg BitVec.toNat h
  rw [toNat_exponentField hleast hmost] at hfield
  simp at hfield
  omega

/-- A significand of fifty-three digits and an exponent are packed as they are put together. -/
theorem ofModel_pack_finite (hlow : 2 ^ 52 ≤ m) (hhigh : m < 2 ^ 53) (hleast : -1074 ≤ e)
    (hmost : e ≤ 971)
    (hm : 0 < m) : Float.ofModel (.pack (.finite .positive m e hm)) = assemble m e := by
  have hfield := toNat_exponentField hleast hmost
  have hne := exponentField_ne hleast hmost
  have hfraction : (BitVec.ofNat 52 m).toNat = m - 2 ^ 52 := by
    rw [BitVec.toNat_ofNat]
    omega
  have hsignificand : significand (.ofNat 11 (e + 1075).toNat) (.ofNat 52 m) = m := by
    rw [significand, if_neg (by omega), hfraction]
    omega
  have hexponent : exponent (.ofNat 11 (e + 1075).toNat) = e := by
    rw [exponent, if_neg (by omega), hfield]
    omega
  have hassemble := assemble_fields (m := .ofNat 52 m) hne
  rw [hsignificand, hexponent] at hassemble
  have hbits := pack_unpack_packComponents (s := .positive) (m := .ofNat 52 m) hne
  rw [hassemble, ofFields, Float.ofBits, Float.Model.ofBits]
  simp only [Float.Model.pack, pack_finite hlow hhigh hleast hmost hm, hbits]

/-- What is put together is unpacked to what it was. -/
theorem unpack_assemble (hlow : 2 ^ 52 ≤ m) (hhigh : m < 2 ^ 53) (hleast : -1074 ≤ e)
    (hmost : e ≤ 971) (hm : 0 < m) : (assemble m e).toModel.unpack = .finite .positive m e hm := by
  have hfield := toNat_exponentField hleast hmost
  have hne := exponentField_ne hleast hmost
  have hzero : BitVec.ofNat 11 (e + 1075).toNat ≠ 0#11 := by
    intro h
    rw [h] at hfield
    simp at hfield
    omega
  have hleading : (1#1 ++ BitVec.ofNat 52 m).toNat = m := by
    rw [BitVec.toNat_append, ← Nat.shiftLeft_add_eq_or_of_lt (BitVec.isLt _), Nat.shiftLeft_eq,
      BitVec.toNat_ofNat]
    show 1 * 2 ^ 52 + m % 2 ^ 52 = m
    omega
  have hexponent : ((e + 1075).toNat : Int) - (Format.binary64.exponentBias + 52) = e := by
    show ((e + 1075).toNat : Int) - ((1023 : Nat) + 52) = e
    omega
  rw [← ofModel_pack_finite hlow hhigh hleast hmost hm]
  show UnpackedFloat.unpack _ (UnpackedFloat.pack .binary64 (.finite .positive m e hm)) = _
  rw [pack_finite hlow hhigh hleast hmost hm]
  simp only [UnpackedFloat.unpack, unpackExponent_packComponents, unpackMantissa_packComponents,
    unpackSign_packComponents, Sign.ofBitVec_toBitVec, if_neg hne, if_neg hzero, hleading, hfield]
  congr 1

/-! ## Rounding -/

/-- A significand and what is kept of the digits after it tell a quotient: its whole part, whether
at least half a unit follows, and whether there is something besides. -/
structure Tells (em : ExtendedMantissa) (a b : Nat) : Prop where
  mantissa : em.mantissa = a / b
  roundBit : em.roundBit = decide (b ≤ 2 * (a % b))
  stickyBit : em.stickyBit = decide (2 * (a % b) ≠ 0 ∧ 2 * (a % b) ≠ b)

/-- A quotient is told by its whole part and how its remainder compares with half a unit. -/
theorem tells_quotient (hb : 0 < b) :
    Tells (.ofMantissaAndAccuracy (a / b) (accuracyOfFraction (a % b) b)) a b := by
  unfold accuracyOfFraction
  by_cases hzero : a % b = 0
  · rw [if_pos hzero]
    constructor <;> simp [ExtendedMantissa.ofMantissaAndAccuracy, hzero, hb.ne']
  · rw [if_neg hzero]
    cases hcompare : compare (2 * (a % b)) b with
    | lt =>
      rw [Nat.compare_eq_lt] at hcompare
      constructor <;> simp [ExtendedMantissa.ofMantissaAndAccuracy] <;> omega
    | eq =>
      rw [Nat.compare_eq_eq] at hcompare
      constructor <;> simp [ExtendedMantissa.ofMantissaAndAccuracy] <;> omega
    | gt =>
      rw [Nat.compare_eq_gt] at hcompare
      constructor <;> simp [ExtendedMantissa.ofMantissaAndAccuracy] <;> omega

/-- Giving up a digit halves the quotient. -/
theorem Tells.shiftRightOne {em : ExtendedMantissa} (h : Tells em a b) (hb : 0 < b) :
    Tells em.shiftRightOne a (b * 2) := by
  obtain ⟨hmantissa, hround, hsticky⟩ := h
  have hmod : a % b < b := Nat.mod_lt a hb
  have hdiv : a / (b * 2) = a / b / 2 := (Nat.div_div_eq_div_mul a b 2).symm
  have hrest : a % (b * 2) = a % b + b * (a / b % 2) := Nat.mod_mul
  have hparity := Nat.mod_two_eq_zero_or_one (a / b)
  constructor
  · rw [ExtendedMantissa.shiftRightOne, hmantissa, hdiv]
  · rw [ExtendedMantissa.shiftRightOne, hmantissa, hrest]
    rcases hparity with hparity | hparity <;> rw [hparity] <;> simp <;> omega
  · rw [ExtendedMantissa.shiftRightOne, hround, hsticky, hrest, Bool.eq_iff_iff]
    rcases hparity with hparity | hparity <;> rw [hparity] <;> simp <;> omega

/-- Giving up digits divides the quotient by a power of two. -/
theorem Tells.shiftRight {em : ExtendedMantissa} (h : Tells em a b) (hb : 0 < b) (n : Nat) :
    Tells (em >>> n) a (b * 2 ^ n) := by
  show Tells (n.repeat ExtendedMantissa.shiftRightOne em) a _
  induction n with
  | zero => rwa [Nat.pow_zero, Nat.mul_one]
  | succ n ih =>
    rw [Nat.pow_succ, ← Nat.mul_assoc]
    exact ih.shiftRightOne (Nat.mul_pos hb (Nat.two_pow_pos n))

/-- What is told is enough to round the quotient. -/
theorem Tells.roundedMantissa {em : ExtendedMantissa} (h : Tells em a b) :
    em.roundedMantissa = roundQuotient a b := by
  obtain ⟨f, round, sticky⟩ := em
  obtain ⟨rfl, hround, hsticky⟩ := h
  have hround : (round = true) ↔ b ≤ 2 * (a % b) := by
    rw [show round = _ from hround, decide_eq_true_eq]
  have hsticky : (sticky = true) ↔ 2 * (a % b) ≠ 0 ∧ 2 * (a % b) ≠ b := by
    rw [show sticky = _ from hsticky, decide_eq_true_eq]
  unfold roundQuotient
  simp only [Bool.or_eq_true, Bool.and_eq_true, decide_eq_true_eq, beq_iff_eq]
  cases round <;> cases sticky <;>
    simp only [ExtendedMantissa.roundedMantissa, ExtendedMantissa.accuracy,
      Accuracy.roundToNearestEven] <;> split <;> simp at hround hsticky <;> omega

/-- A quotient is rounded down, or up by one. -/
theorem roundQuotient_mem (a b : Nat) :
    a / b ≤ roundQuotient a b ∧ roundQuotient a b ≤ a / b + 1 := by
  unfold roundQuotient
  dsimp only
  split <;> omega

/-- Digits beyond the fifty-third are given up. -/
theorem shiftToTargetExponent_eq {acc : Accuracy} {k : Nat} (hm : m.log2 = 52 + k)
    (he : -1074 ≤ e + k) :
    shiftToTargetExponent .binary64 m e acc =
      (ExtendedMantissa.ofMantissaAndAccuracy m acc >>> k, e + k) := by
  have htarget : max ((m.log2 : Int) - 52 + e) (-1074) = e + k := by omega
  have hshift : (e + k - e).toNat = k := by omega
  rw [shiftToTargetExponent, targetExponent_totalExponent, htarget, shiftToExponent, hshift]

/-- The double of a rounded significand, which may have one digit too many. -/
def rounded (f : Nat) (e : Int) : Float :=
  if f = 2 ^ 53 then assemble (2 ^ 52) (e + 1) else assemble f e

/-- Giving up no digit of a significand leaves it as it is. -/
theorem shiftToTargetExponent_exact (hlow : 2 ^ 52 ≤ f) (hhigh : f < 2 ^ 53) (he : -1074 ≤ e) :
    shiftToTargetExponent .binary64 f e .exact = (⟨f, false, false⟩, e) := by
  have hzero : e + (0 : Nat) = e := by omega
  rw [shiftToTargetExponent_eq (k := 0) (log2_eq_of_normal hlow hhigh) (by omega), hzero]
  rfl

/-- A significand with a digit too many is a power of two. -/
theorem shiftToTargetExponent_carry (he : -1074 ≤ e) :
    shiftToTargetExponent .binary64 (2 ^ 53) e .exact = (⟨2 ^ 52, false, false⟩, e + 1) := by
  rw [shiftToTargetExponent_eq (k := 1) (by decide) (by omega)]
  rfl

/-- Rounding gives up digits, rounds what is left, and gives up the digit that this may add. -/
theorem roundWithAccuracy_eq {acc : Accuracy} {em : ExtendedMantissa} {e₁ e₂ : Int} (hf : 0 < f)
    (hshift : shiftToTargetExponent .binary64 m e acc = (em, e₁))
    (hagain : shiftToTargetExponent .binary64 em.roundedMantissa e₁ .exact =
      (⟨f, false, false⟩, e₂)) :
    roundWithAccuracy .binary64 .positive m e acc = .finite .positive f e₂ hf := by
  simp only [roundWithAccuracy, hshift, hagain]
  exact dif_neg hf.ne'

/-- A significand is kept, however exact it is. -/
theorem mantissa_ofMantissaAndAccuracy (m : Nat) (acc : Accuracy) :
    (ExtendedMantissa.ofMantissaAndAccuracy m acc).mantissa = m := by
  cases acc with
  | exact => rfl
  | inexact o => cases o <;> rfl

/-- A quotient that is told is rounded to fifty-three digits. -/
theorem ofModel_pack_roundWithAccuracy {acc : Accuracy} {k : Nat} (hb : 0 < b)
    (htells : Tells (.ofMantissaAndAccuracy m acc) a b) (hm : m.log2 = 52 + k)
    (hleast : -1074 ≤ e + k)
    (hmost : e + k ≤ 970) : Float.ofModel (.pack (roundWithAccuracy .binary64 .positive m e acc)) =
      rounded (roundQuotient a (b * 2 ^ k)) (e + k) := by
  have hshifted := htells.shiftRight hb k
  have hbounds : 2 ^ 52 ≤ a / (b * 2 ^ k) ∧ a / (b * 2 ^ k) < 2 ^ 53 := by
    obtain ⟨hlow, hhigh⟩ := log2_mem hm
    rw [← Nat.div_div_eq_div_mul, ← htells.mantissa, mantissa_ofMantissaAndAccuracy]
    rw [Nat.le_div_iff_mul_le (Nat.two_pow_pos k), Nat.div_lt_iff_lt_mul (Nat.two_pow_pos k),
      ← Nat.pow_add, ← Nat.pow_add]
    exact ⟨hlow, by rwa [show 53 + k = 52 + k + 1 by omega]⟩
  have hround := roundQuotient_mem a (b * 2 ^ k)
  have hshift : shiftToTargetExponent .binary64 m e acc = _ := shiftToTargetExponent_eq hm hleast
  unfold rounded
  by_cases hcarry : roundQuotient a (b * 2 ^ k) = 2 ^ 53
  · have hagain := shiftToTargetExponent_carry hleast
    rw [← hcarry, ← hshifted.roundedMantissa] at hagain
    rw [roundWithAccuracy_eq (by decide) hshift hagain, if_pos hcarry]
    exact ofModel_pack_finite (by decide) (by decide) (by omega) (by omega) _
  · have hlow : 2 ^ 52 ≤ roundQuotient a (b * 2 ^ k) := by omega
    have hhigh : roundQuotient a (b * 2 ^ k) < 2 ^ 53 := by omega
    have hagain := shiftToTargetExponent_exact hlow hhigh hleast
    rw [← hshifted.roundedMantissa] at hagain hlow hhigh
    rw [roundWithAccuracy_eq (by omega) hshift hagain, if_neg hcarry, ← hshifted.roundedMantissa]
    exact ofModel_pack_finite hlow hhigh (by omega) (by omega) _

/-! ## Counts -/

/-- A number is told exactly by itself. -/
theorem tells_exact (m : Nat) : Tells (.ofMantissaAndAccuracy m .exact) m 1 := by
  have h := tells_quotient (a := m) Nat.one_pos
  rwa [Nat.div_one, Nat.mod_one, accuracyOfFraction, if_pos rfl] at h

/-- A number of units is rounded to itself. -/
theorem roundQuotient_exact (hb : 0 < b) (m : Nat) : roundQuotient (m * b) b = m :=
  roundQuotient_eq hb (by linarith) (by linarith) fun _ => ⟨by linarith, by linarith⟩

/-- Digits beyond the fifty-third that are zeros are given up without loss. -/
theorem ofModel_pack_roundWithAccuracy_exact {k : Nat} (hlow : 2 ^ 52 ≤ m) (hhigh : m < 2 ^ 53)
    (hleast : -1074 ≤ e + k) (hmost : e + k ≤ 970) :
    Float.ofModel (.pack (roundWithAccuracy .binary64 .positive (m * 2 ^ k) e .exact)) =
      assemble m (e + k) := by
  have hpower := Nat.two_pow_pos k
  have hlog : (m * 2 ^ k).log2 = 52 + k := by
    refine (Nat.log2_eq_iff (Nat.mul_pos (by omega) hpower).ne').2 ⟨?_, ?_⟩
    · rw [Nat.pow_add]
      exact Nat.mul_le_mul_right _ hlow
    · rw [show 52 + k + 1 = 53 + k by omega, Nat.pow_add]
      exact Nat.mul_lt_mul_of_pos_right hhigh hpower
  rw [ofModel_pack_roundWithAccuracy Nat.one_pos (tells_exact _) hlog hleast hmost, Nat.one_mul,
    roundQuotient_exact (Nat.two_pow_pos k), rounded, if_neg (by omega)]

/-- The significand of a count. -/
def leadingDigits (n : Nat) : Nat := n * 2 ^ (52 - n.log2)

/-- A count that is not too large has fifty-three digits if zeros are appended. -/
theorem leadingDigits_mem (hpos : 0 < n) (hn : n < 2 ^ 53) :
    2 ^ 52 ≤ leadingDigits n ∧ leadingDigits n < 2 ^ 53 := by
  obtain ⟨hlow, hhigh⟩ := (Nat.log2_eq_iff hpos.ne').1 rfl
  have hlog : n.log2 < 53 := (Nat.log2_lt hpos.ne').2 hn
  have hpower := Nat.two_pow_pos (52 - n.log2)
  unfold leadingDigits
  constructor
  · calc 2 ^ 52 = 2 ^ n.log2 * 2 ^ (52 - n.log2) := by rw [← Nat.pow_add]; congr 1; omega
      _ ≤ _ := Nat.mul_le_mul_right _ hlow
  · calc _ < 2 ^ (n.log2 + 1) * 2 ^ (52 - n.log2) := Nat.mul_lt_mul_of_pos_right hhigh hpower
      _ = 2 ^ 53 := by rw [← Nat.pow_add]; congr 1; omega

/-- A count that is not too large is a double. -/
theorem toFloat_toUInt64 (hpos : 0 < n) (hn : n < 2 ^ 53) :
    n.toUInt64.toFloat = assemble (leadingDigits n) (n.log2 - 52) := by
  obtain ⟨hlow, hhigh⟩ := leadingDigits_mem hpos hn
  have hlog : n.log2 < 53 := (Nat.log2_lt hpos.ne').2 hn
  have hword : n.toUInt64.toNat = n := by
    rw [UInt64.toNat_ofNat']
    omega
  have hcompare : compare (n : Int) 0 = .gt := by
    rw [Int.compare_eq_gt]
    omega
  have htarget : max ((n.log2 : Int) - 52 + 0) (-1074) = n.log2 - 52 := by omega
  have hshift : (0 - ((n.log2 : Int) - 52)).toNat = 52 - n.log2 := by omega
  have hexponent : 0 - ((52 - n.log2 : Nat) : Int) = n.log2 - 52 := by omega
  have hround : UnpackedFloat.round .binary64 .positive n 0 =
      roundWithAccuracy .binary64 .positive (leadingDigits n * 2 ^ 0) (n.log2 - 52) .exact := by
    rw [UnpackedFloat.round, targetExponent_totalExponent, htarget, decreaseExponent, hshift,
      hexponent, Nat.shiftLeft_eq, Nat.pow_zero, Nat.mul_one, leadingDigits]
  show Float.ofModel (.pack (UnpackedFloat.ofUInt64 .binary64 n.toUInt64)) = _
  rw [ofUInt64, hword, UnpackedFloat.ofNat, UnpackedFloat.ofInt, UnpackedFloat.normalize, hcompare]
  simp only [Int.toNat_natCast]
  rw [hround, ofModel_pack_roundWithAccuracy_exact hlow hhigh (by omega) (by omega)]
  congr 1
  omega

/-- One is a double. -/
theorem ofBits_one : Float.ofBits 0x3FF0000000000000 = assemble (2 ^ 52) (-52) := by
  rw [assemble]
  rfl

/-- The product of a double with one is the double. -/
theorem assemble_mul_one (hlow : 2 ^ 52 ≤ m) (hhigh : m < 2 ^ 53) (hleast : -1074 ≤ e)
    (hmost : e ≤ 970) : assemble m e * assemble (2 ^ 52) (-52) = assemble m e := by
  have hm : 0 < m := by omega
  show Float.ofModel (.pack (UnpackedFloat.mul .binary64 (assemble m e).toModel.unpack
    (assemble (2 ^ 52) (-52)).toModel.unpack)) = _
  rw [unpack_assemble hlow hhigh hleast (by omega) hm,
    unpack_assemble (by decide) (by decide) (by decide) (by decide) (by decide)]
  show Float.ofModel
    (.pack (roundWithAccuracy .binary64 .positive (m * 2 ^ 52) (e + -52) .exact)) = _
  rw [ofModel_pack_roundWithAccuracy_exact hlow hhigh (by omega) (by omega)]
  congr 1
  omega

/-- The double of a count. -/
theorem ofNat_eq (hpos : 0 < n) (hn : n < 2 ^ 53) :
    Float.ofNat n = assemble (leadingDigits n) (n.log2 - 52) := by
  obtain ⟨hlow, hhigh⟩ := leadingDigits_mem hpos hn
  have hlog : n.log2 < 53 := (Nat.log2_lt hpos.ne').2 hn
  show Float.ofScientific n false 0 = _
  rw [Float.ofScientific, dif_pos ⟨hn, by decide⟩, if_neg (by decide)]
  show n.toUInt64.toFloat * Float.ofBits 0x3FF0000000000000 = _
  rw [toFloat_toUInt64 hpos hn, ofBits_one, assemble_mul_one hlow hhigh (by omega) (by omega)]

/-! ## Quotients of counts -/

/-- A quotient of significands has fifty-three digits, or one more, if fifty-three zeros are
appended to the first. -/
theorem assemble_div {m' : Nat} {e' : Int} {k : Nat} (hlow : 2 ^ 52 ≤ m) (hhigh : m < 2 ^ 53)
    (he : -52 ≤ e ∧ e ≤ 0) (hlow' : 2 ^ 52 ≤ m') (hhigh' : m' < 2 ^ 53) (he' : -52 ≤ e' ∧ e' ≤ 0)
    (hk : (m * 2 ^ 53 / m').log2 = 52 + k) (hsmall : k ≤ 1) :
    assemble m e / assemble m' e' =
      rounded (roundQuotient (m * 2 ^ 53) (m' * 2 ^ k)) (e - e' - 53 + k) := by
  have hm : 0 < m := by omega
  have hm' : 0 < m' := by omega
  have htarget : min (e - e') (max ((e - e') - 53) (-1074)) = e - e' - 53 := by omega
  have hdigits : totalExponent m e - totalExponent m' e' = e - e' := by
    simp only [totalExponent, log2_eq_of_normal hlow hhigh, log2_eq_of_normal hlow' hhigh']
    omega
  have hcore : divCore .binary64 m e m' e' =
      (m * 2 ^ 53 / m', e - e' - 53, accuracyOfFraction (m * 2 ^ 53 % m') m') := by
    have htargetExponent : Format.binary64.targetExponent (e - e') = max (e - e' - 53) (-1074) :=
      rfl
    have hshift : (e - e' - (e - e' - 53)).toNat = 53 := by omega
    rw [divCore, hdigits, htargetExponent, htarget, hshift, Nat.shiftLeft_eq]
  show Float.ofModel (.pack (UnpackedFloat.div .binary64 (assemble m e).toModel.unpack
    (assemble m' e').toModel.unpack)) = _
  rw [unpack_assemble hlow hhigh (by omega) (by omega) hm,
    unpack_assemble hlow' hhigh' (by omega) (by omega) hm', UnpackedFloat.div, hcore]
  exact ofModel_pack_roundWithAccuracy hm' (tells_quotient hm') hk (by omega) (by omega)

/-- A quotient of at most a number is rounded to at most the number. -/
theorem roundQuotient_le (hb : 0 < b) (h : a ≤ b * n) : roundQuotient a b ≤ n := by
  have hdiv : a / b ≤ n := Nat.div_le_of_le_mul h
  rcases hdiv.lt_or_eq with hlt | heq
  · have hround := roundQuotient_mem a b
    omega
  · have hexact : a = n * b := by
      have hsplit := Nat.div_add_mod a b
      rw [heq] at hsplit
      rw [Nat.mul_comm]
      omega
    rw [hexact, roundQuotient_exact hb]

/-- A count has fewer digits than a greater one, or a lesser significand. -/
theorem leadingDigits_lt (hpos : 0 < a) (hlt : a < b) :
    a.log2 < b.log2 ∨ a.log2 = b.log2 ∧ leadingDigits a < leadingDigits b := by
  have hle : a.log2 ≤ b.log2 := by
    rw [Nat.le_log2 (by omega)]
    exact (Nat.log2_self_le hpos.ne').trans hlt.le
  refine hle.lt_or_eq.imp_right fun heq => ⟨heq, ?_⟩
  rw [leadingDigits, leadingDigits, heq]
  exact Nat.mul_lt_mul_of_pos_right hlt (Nat.two_pow_pos _)

/-- A double between zero and one. -/
def IsProper (x : Float) : Prop :=
  ∃ f e, 2 ^ 52 ≤ f ∧ f < 2 ^ 53 ∧ -1074 ≤ e ∧ e < -52 ∧ x = assemble f e

/-- A quotient of significands that is rounded in small units is less than one. -/
theorem isProper_rounded {k : Nat} (hn : 0 < n) (hlog : (m * 2 ^ 53 / n).log2 = 52 + k)
    (hle : m * 2 ^ 53 ≤ n * 2 ^ k * (2 ^ 53 - 1)) (hleast : -1074 ≤ e) (hmost : e < -52) :
    IsProper (rounded (roundQuotient (m * 2 ^ 53) (n * 2 ^ k)) e) := by
  have hpower := Nat.two_pow_pos k
  have hmost' : roundQuotient (m * 2 ^ 53) (n * 2 ^ k) ≤ 2 ^ 53 - 1 :=
    roundQuotient_le (Nat.mul_pos hn hpower) hle
  have hleast' : 2 ^ 52 ≤ m * 2 ^ 53 / (n * 2 ^ k) := by
    have hlow := (log2_mem hlog).1
    rwa [← Nat.div_div_eq_div_mul, Nat.le_div_iff_mul_le hpower, ← Nat.pow_add]
  have hround := roundQuotient_mem (m * 2 ^ 53) (n * 2 ^ k)
  refine ⟨_, e, ?_, ?_, hleast, hmost, if_neg ?_⟩ <;> omega

/-- The quotient of a count by a greater one is a double less than one. -/
theorem isProper_div (hpos : 0 < a) (hlt : a < b) (hb : b < 2 ^ 53) :
    IsProper (Float.ofNat a / Float.ofNat b) := by
  obtain ⟨hlow, hhigh⟩ := leadingDigits_mem hpos (hlt.trans hb)
  obtain ⟨hlow', hhigh'⟩ := leadingDigits_mem (hpos.trans hlt) hb
  have hlog : a.log2 < 53 := (Nat.log2_lt hpos.ne').2 (hlt.trans hb)
  have hlog' : b.log2 < 53 := (Nat.log2_lt (hpos.trans hlt).ne').2 hb
  have hdigits := leadingDigits_lt hpos hlt
  rw [ofNat_eq hpos (hlt.trans hb), ofNat_eq (hpos.trans hlt) hb]
  generalize leadingDigits a = m at *
  generalize leadingDigits b = m' at *
  have hm' : 0 < m' := by omega
  -- The quotient of the significands has a digit before its point, and the exponents then make up
  -- for it.
  rcases Nat.lt_or_ge m m' with hless | hge
  · have hk : (m * 2 ^ 53 / m').log2 = 52 + 0 := log2_div hm' (by omega) (by omega)
    rw [assemble_div hlow hhigh (by omega) hlow' hhigh' (by omega) hk (by omega)]
    exact isProper_rounded hm' hk (by omega) (by omega) (by omega)
  · have hk : (m * 2 ^ 53 / m').log2 = 52 + 1 := log2_div hm' (by omega) (by omega)
    rw [assemble_div hlow hhigh (by omega) hlow' hhigh' (by omega) hk (by omega)]
    exact isProper_rounded hm' hk (by omega) (by omega) (by omega)

/-- The quotient of a count by itself is one. -/
theorem ofNat_div_self (hpos : 0 < a) (ha : a < 2 ^ 53) : Float.ofNat a / Float.ofNat a = 1.0 := by
  obtain ⟨hlow, hhigh⟩ := leadingDigits_mem hpos ha
  have hlog : a.log2 < 53 := (Nat.log2_lt hpos.ne').2 ha
  rw [ofNat_eq hpos ha]
  generalize leadingDigits a = m at *
  have hquotient : m * 2 ^ 53 / m = 2 ^ 53 := Nat.mul_div_cancel_left _ (by omega)
  have hround : roundQuotient (m * 2 ^ 53) (m * 2 ^ 1) = 2 ^ 52 := by
    rw [show m * 2 ^ 53 = 2 ^ 52 * (m * 2 ^ 1) by omega, roundQuotient_exact (by omega)]
  have hexponent : (a.log2 : Int) - 52 - (a.log2 - 52) - 53 + (1 : Nat) = -52 := by omega
  rw [assemble_div (k := 1) hlow hhigh (by omega) hlow hhigh (by omega) (by rw [hquotient]; decide)
    (by omega), hround, hexponent]
  rfl

/-- The quotient of nothing by a count is nothing. -/
theorem zero_div_ofNat (hpos : 0 < b) (hb : b < 2 ^ 53) : Float.ofNat 0 / Float.ofNat b = 0.0 := by
  obtain ⟨hlow, hhigh⟩ := leadingDigits_mem hpos hb
  have hlog : b.log2 < 53 := (Nat.log2_lt hpos.ne').2 hb
  have hzero : (Float.ofNat 0).toModel.unpack = .zero .positive := rfl
  rw [ofNat_eq hpos hb]
  show Float.ofModel (.pack (UnpackedFloat.div .binary64 (Float.ofNat 0).toModel.unpack
    (assemble (leadingDigits b) (b.log2 - 52)).toModel.unpack)) = _
  rw [unpack_assemble hlow hhigh (by omega) (by omega) (by omega), hzero]
  rfl

/-- Such a double is at least zero and at most one, but not one. -/
theorem IsProper.mem {x : Float} (h : IsProper x) : (0.0 ≤ x ∧ x ≤ 1.0) ∧ x ≠ 1.0 := by
  obtain ⟨f, e, hlow, hhigh, hleast, hmost, rfl⟩ := h
  have hzero : (0.0 : Float).toModel.unpack = .zero .positive := rfl
  have hone : (1.0 : Float).toModel.unpack = .finite .positive (2 ^ 52) (-52) (by decide) := rfl
  have hunpack := unpack_assemble hlow hhigh hleast (by omega) (by omega)
  refine ⟨⟨?_, ?_⟩, ?_⟩
  · show decide ((0.0 : Float).toModel.unpack.le (assemble f e).toModel.unpack = true) = true
    rw [hunpack, hzero]
    rfl
  · have hcompare : compare e (-52) = .lt := Int.compare_eq_lt.2 hmost
    show decide ((assemble f e).toModel.unpack.le (1.0 : Float).toModel.unpack = true) = true
    rw [hunpack, hone, UnpackedFloat.le, UnpackedFloat.compare, hcompare]
    rfl
  · intro hx
    rw [hx, hone] at hunpack
    cases hunpack
    exact absurd hmost (Int.lt_irrefl _)

end Dossier.Decimal

namespace Dossier

open Decimal

/-- **A share of at most all is shown as a double from zero to one, and as one only if it is all.**
Doubles tell counts below `2 ^ 53` apart. -/
theorem Share.toFloat_mem {s : Share} (hle : s.part ≤ s.whole) (hpos : 0 < s.whole)
    (hsmall : s.whole < 2 ^ 53) :
    (0.0 ≤ s.toFloat ∧ s.toFloat ≤ 1.0) ∧ (s.toFloat = 1.0 ↔ s.part = s.whole) := by
  obtain ⟨part, whole⟩ := s
  dsimp only at *
  have hquotient : Share.toFloat ⟨part, whole⟩ = Float.ofNat part / Float.ofNat whole := by
    rw [Share.toFloat, if_neg (by simpa using hpos.ne')]
  rw [hquotient]
  rcases hle.lt_or_eq with hlt | rfl
  · rcases Nat.eq_zero_or_pos part with rfl | hpart
    · rw [zero_div_ofNat hpos hsmall]
      exact ⟨by decide, iff_of_false (by decide) hlt.ne⟩
    · obtain ⟨hmem, hne⟩ := (isProper_div hpart hlt hsmall).mem
      exact ⟨hmem, iff_of_false hne hlt.ne⟩
  · rw [ofNat_div_self hpos hsmall]
    exact ⟨by decide, iff_of_true rfl rfl⟩

end Dossier
