import Mathlib
import Dossier.Decimal.Nearest
import Dossier.Decimal.Shortest

/-!
# Doubles and their parts

A finite double consists of a sign, an exponent and a fraction of 1, 11 and 52 bits
(`exists_ofFields`). So taking it apart gives a significand and an exponent of two in normal form,
and putting these together again and then setting the sign gives it back (`exists_parts`).
-/

namespace Dossier.Decimal

open Float.Model (Format UnpackedFloat)
open Float.Model.UnpackedFloat (Sign packComponents)

variable {s : Sign} {e : BitVec 11} {m : BitVec 52} {x : Float}

/-- The power of two, as the library writes it. -/
theorem twoTo_eq (n : Nat) : twoTo n = 2 ^ n := rfl

/-! ## Bits -/

/-- Three fields side by side are the digits of a number. -/
theorem toNat_packComponents : (packComponents .binary64 s e m).toNat =
    s.toBitVec.toNat * 2 ^ 63 + e.toNat * 2 ^ 52 + m.toNat := by
  rw [packComponents, BitVec.toNat_append, BitVec.toNat_append,
    ← Nat.shiftLeft_add_eq_or_of_lt m.isLt, ← Nat.shiftLeft_add_eq_or_of_lt e.isLt,
    Nat.shiftLeft_eq, Nat.shiftLeft_eq]
  ring

/-- The opposite has the opposite sign. -/
theorem neg_unpack_packComponents :
    (UnpackedFloat.unpack .binary64 (packComponents .binary64 s e m)).neg =
    UnpackedFloat.unpack .binary64 (packComponents .binary64 (-s) e m) := by
  simp only [UnpackedFloat.unpack, UnpackedFloat.unpackExponent_packComponents,
    UnpackedFloat.unpackMantissa_packComponents, UnpackedFloat.unpackSign_packComponents,
    Sign.ofBitVec_toBitVec]
  split
  · split <;> rfl
  · split
    · split <;> rfl
    · rfl

/-- The fields of what is finite are packed as they were unpacked. -/
theorem pack_unpack_packComponents (he : e ≠ -1#11) :
    UnpackedFloat.pack .binary64
      (UnpackedFloat.unpack .binary64 (packComponents .binary64 s e m)) =
      packComponents .binary64 s e m := by
  have hnumber : UnpackedFloat.isNaNBits (packComponents .binary64 s e m) = false := by
    rw [UnpackedFloat.isNaNBits, UnpackedFloat.unpackExponent_packComponents]
    exact decide_eq_false fun h => he h.1
  rw [UnpackedFloat.pack_unpack, hnumber]
  rfl

/-! ## Fields -/

/-- The double of given fields. -/
def ofFields (s : Sign) (e : BitVec 11) (m : BitVec 52) : Float :=
  Float.ofBits (.ofBitVec (packComponents .binary64 s e m))

/-- The bits of a finite double are its fields. -/
theorem toBits_ofFields (he : e ≠ -1#11) :
    (ofFields s e m).toBits = .ofBitVec (packComponents .binary64 s e m) :=
  congrArg UInt64.ofBitVec (pack_unpack_packComponents he)

/-- The opposite of a finite double has the opposite sign. -/
theorem neg_ofFields (he : e ≠ -1#11) : -ofFields s e m = ofFields (-s) e m := by
  have hunpack : (ofFields s e m).toModel.unpack =
      UnpackedFloat.unpack .binary64 (packComponents .binary64 s e m) :=
    congrArg (fun b : UInt64 => UnpackedFloat.unpack .binary64 b.toBitVec) (toBits_ofFields he)
  show Float.ofModel (.pack (ofFields s e m).toModel.unpack.neg) = _
  rw [hunpack, neg_unpack_packComponents]
  rfl

/-- A finite double has fields. -/
theorem exists_ofFields (h : x.isFinite = true) : ∃ s e m, e ≠ -1#11 ∧ x = ofFields s e m := by
  obtain ⟨⟨⟨bits⟩, hvalid⟩⟩ := x
  obtain ⟨s, e, m, rfl⟩ : ∃ s e m, bits = packComponents .binary64 s e m :=
    ⟨_, _, _,
      (@UnpackedFloat.packComponents_unpackSign_unpackExponent_unpackMantissa .binary64 bits).symm⟩
  have he : e ≠ -1#11 := by
    rintro rfl
    have hfinite : (UnpackedFloat.unpack .binary64
        (packComponents .binary64 s (-1#11) m)).isFinite = true := h
    simp only [UnpackedFloat.unpack, UnpackedFloat.unpackExponent_packComponents, if_true]
      at hfinite
    split at hfinite <;> cases hfinite
  refine ⟨s, e, m, he, ?_⟩
  have hbits := pack_unpack_packComponents (s := s) (m := m) he
  simp only [ofFields, Float.ofBits, Float.Model.ofBits, Float.Model.pack, hbits]

/-! ## Normal form -/

/-- A significand and an exponent of two that a finite double is taken apart to. -/
structure IsNormal (m : Nat) (q : Int) : Prop where
  lt : m < 2 ^ 53
  least : -1074 ≤ q
  most : q ≤ 971
  leading : 2 ^ 52 ≤ m ∨ q = -1074

/-- The significand that fields stand for. The leading bit is left out unless the exponent is the
least. -/
def significand (e : BitVec 11) (m : BitVec 52) : Nat :=
  if e.toNat = 0 then m.toNat else 2 ^ 52 + m.toNat

/-- The exponent of two that a field stands for. -/
def exponent (e : BitVec 11) : Int := if e.toNat = 0 then -1074 else e.toNat - 1075

/-- What the fields of a finite double stand for is in normal form. -/
theorem isNormal_fields (he : e ≠ -1#11) : IsNormal (significand e m) (exponent e) := by
  have hm := m.isLt
  have hlt := e.isLt
  have hmost : e.toNat ≠ 2047 := fun h => he (BitVec.eq_of_toNat_eq h)
  unfold significand exponent
  constructor <;> split <;> omega

/-- A finite double is taken apart to what its fields stand for. -/
theorem ofFloat_ofFields (he : e ≠ -1#11) :
    Parts.ofFloat (ofFields s e m) = .finite (s == .negative) (significand e m) (exponent e) := by
  have hm := m.isLt
  have hlt := e.isLt
  have hmost : e.toNat ≠ 2047 := fun h => he (BitVec.eq_of_toNat_eq h)
  have hbits : (ofFields s e m).toBits.toNat =
      s.toBitVec.toNat * 2 ^ 63 + e.toNat * 2 ^ 52 + m.toNat := by
    rw [toBits_ofFields he, UInt64.toNat_ofBitVec, toNat_packComponents]
  have hsign : s.toBitVec.toNat < 2 := s.toBitVec.isLt
  have htop : (ofFields s e m).toBits.toNat / twoTo 63 = s.toBitVec.toNat := by
    rw [hbits, twoTo_eq]
    omega
  have hfield : (ofFields s e m).toBits.toNat / twoTo 52 % twoTo 11 = e.toNat := by
    rw [hbits, twoTo_eq, twoTo_eq]
    omega
  have hfraction : (ofFields s e m).toBits.toNat % twoTo 52 = m.toNat := by
    rw [hbits, twoTo_eq]
    omega
  have hnegative : (s.toBitVec.toNat == 1) = (s == .negative) := by cases s <;> rfl
  simp only [Parts.ofFloat, htop, hfield, hfraction, hnegative, significand, exponent]
  split
  case isTrue h => exact absurd (beq_iff_eq.1 h) hmost
  case isFalse => simp only [beq_iff_eq]; split <;> rfl

/-- What the fields of a positive double stand for is put together to it. -/
theorem assemble_fields (he : e ≠ -1#11) :
    assemble (significand e m) (exponent e) = ofFields .positive e m := by
  have hm := m.isLt
  have hlt := e.isLt
  have hmost : e.toNat ≠ 2047 := fun h => he (BitVec.eq_of_toNat_eq h)
  have hrange : ¬exponent e > 971 := not_lt.2 (isNormal_fields (m := m) he).most
  have hbits : (packComponents .binary64 .positive e m).toNat = e.toNat * 2 ^ 52 + m.toNat := by
    rw [toNat_packComponents]
    simp [Sign.toBitVec]
  have hword : UInt64.ofBitVec (packComponents .binary64 .positive e m) =
      .ofNat (e.toNat * 2 ^ 52 + m.toNat) := by
    rw [← UInt64.toNat_inj, UInt64.toNat_ofBitVec, hbits, UInt64.toNat_ofNat']
    omega
  rw [assemble, if_neg hrange, ofFields, hword, twoTo_eq, significand, exponent]
  by_cases hzero : e.toNat = 0
  · rw [if_pos hzero, if_pos hm, hzero, Nat.zero_mul, Nat.zero_add]
  · rw [if_neg hzero, if_neg hzero, if_neg (by omega), Nat.add_sub_cancel_left, Int.sub_add_cancel,
      Int.toNat_natCast]

/-- A finite double is taken apart to a significand and an exponent in normal form, which are put
together to it up to its sign. -/
theorem exists_parts (h : x.isFinite = true) :
    ∃ negative m q, Parts.ofFloat x = .finite negative m q ∧
    IsNormal m q ∧ x = if negative then -assemble m q else assemble m q := by
  obtain ⟨s, e, m, he, rfl⟩ := exists_ofFields h
  refine ⟨_, _, _, ofFloat_ofFields he, isNormal_fields he, ?_⟩
  rw [assemble_fields he, neg_ofFields he]
  cases s <;> rfl

end Dossier.Decimal
