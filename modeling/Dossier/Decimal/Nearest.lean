import Dossier.Decimal.Power
import Dossier.Text.Radix

/-!
# The double nearest to a number

`nearest` rounds a quotient of natural numbers to the nearest IEEE double, a tie going to the even
neighbour, in exact arithmetic. `ofScaled` does so for a decimal, and `read?` for a decimal's text.
-/

namespace Dossier.Decimal

/-- The double `f · 2 ^ q`, where `f` is below `2 ^ 53`, and at least `2 ^ 52` unless `q` is the
least exponent. A value beyond the range is infinite. -/
def assemble (f : Nat) (q : Int) : Float :=
  if q > 971 then Float.ofBits 0x7ff0000000000000
  else if f < twoTo 52 then Float.ofBits (UInt64.ofNat f)
  else Float.ofBits (UInt64.ofNat ((q + 1075).toNat * twoTo 52 + (f - twoTo 52)))

/-- The quotient of `a` and `b` rounded to the nearest natural number, a tie to the even one. -/
def roundQuotient (a b : Nat) : Nat :=
  let f := a / b
  let r := a % b
  if 2 * r > b || (2 * r == b && f % 2 == 1) then f + 1 else f

/-- `num / den` in units of `2 ^ q`, as a quotient. -/
def inUnits (num den : Nat) (q : Int) : Nat × Nat :=
  if q ≥ 0 then (num, den * twoTo q.toNat) else (num * twoTo (-q).toNat, den)

/-- The double nearest to `num / den`. -/
def nearest (num den : Nat) : Float :=
  if num == 0 then 0.0
  else
    let guess : Int := (num.log2 : Int) - den.log2 - 52
    let (a, b) := inUnits num den guess
    let q := max (if a / b < twoTo 52 then guess - 1 else guess) (-1074)
    let (a, b) := inUnits num den q
    let f := roundQuotient a b
    if f == twoTo 53 then assemble (twoTo 52) (q + 1) else assemble f q

/-- The double nearest to `digits · 10 ^ exponent`. An exponent that is sure to lead out of the
range of doubles is answered without computing the power. -/
def ofScaled (digits : Nat) (exponent : Int) : Float :=
  let magnitude : Int := (Nat.toDigits 10 digits).length + exponent
  if digits == 0 || magnitude < -330 then 0.0
  else if magnitude > 310 then Float.ofBits 0x7ff0000000000000
  else if exponent ≥ 0 then nearest (digits * tenTo exponent.toNat) 1
  else nearest digits (tenTo (-exponent).toNat)

/-- The text after an optional sign, and whether the sign is a minus. -/
def splitSign : List Char → Bool × List Char
  | '-' :: cs => (true, cs)
  | '+' :: cs => (false, cs)
  | cs => (false, cs)

/-- The value of a decimal's text: an optional sign, digits with at most one point among them, and
optionally an exponent. -/
def read? (cs : List Char) : Option Float :=
  let (negative, cs) := splitSign cs
  let whole := cs.takeWhile Char.isDigit
  let rest := cs.dropWhile Char.isDigit
  let (fraction, rest) :=
    match rest with
    | '.' :: rest => (rest.takeWhile Char.isDigit, rest.dropWhile Char.isDigit)
    | rest => ([], rest)
  let exponent? : Option Int :=
    match rest with
    | [] => some 0
    | c :: rest =>
      let (down, digits) := splitSign rest
      if (c == 'e' || c == 'E') && !digits.isEmpty && digits.all Char.isDigit then
        some (if down then -(Text.ofDigits digits : Int) else Text.ofDigits digits)
      else none
  if whole.isEmpty && fraction.isEmpty then none
  else
    exponent?.map fun exponent =>
      let x := ofScaled (Text.ofDigits (whole ++ fraction)) (exponent - fraction.length)
      if negative then -x else x

end Dossier.Decimal
