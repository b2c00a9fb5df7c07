import Dossier.Decimal.Power

/-!
# Shortest decimals

A finite double is `m · 2 ^ q`. The reals that round to it form an interval around it, and its
shortest decimal is the one with the fewest digits inside that interval, the nearest if two have as
few. `shortest` finds it in exact arithmetic: on the grid of decimals with one digit, then with
two, and so on, it tests the two neighbours of the value. `Style` says how such a decimal is
written.
-/

namespace Dossier.Decimal

/-- A double taken apart. -/
inductive Parts where
  | nan
  | infinite (negative : Bool)
  | finite (negative : Bool) (m : Nat) (q : Int)

/-- The sign, significand and binary exponent of a double. -/
def Parts.ofFloat (x : Float) : Parts :=
  let bits := x.toBits.toNat
  let negative := bits / twoTo 63 == 1
  let field : Nat := bits / twoTo 52 % twoTo 11
  let fraction := bits % twoTo 52
  if field == 2047 then if fraction == 0 then .infinite negative else .nan
  else if field == 0 then .finite negative fraction (-1074)
  else .finite negative (twoTo 52 + fraction) ((field : Int) - 1075)

/-- The decimal `digits · 10 ^ exponent`. -/
structure Scaled where
  digits : Nat
  exponent : Int
  deriving DecidableEq, Repr

/-- The number of decimal digits of a natural number. -/
def digitCount (n : Nat) : Nat := (Nat.toDigits 10 n).length

/-- The exponent of the first significant digit of `num / den`. -/
def magnitude (num den : Nat) : Int :=
  if num ≥ den then (digitCount (num / den) : Int) - 1
  else
    let n := digitCount (den / num)
    if num * tenTo (n - 1) ≥ den then 1 - (n : Int) else -n

/-- The decimal without the zeros its digits end with. -/
def Scaled.strip (d : Scaled) : Scaled :=
  if d.digits == 0 then d
  else if d.digits % 10 == 0 then Scaled.strip ⟨d.digits / 10, d.exponent + 1⟩
  else d
termination_by d.digits
decreasing_by simp_all; omega

/-- The reals that round to `m · 2 ^ q`, as numerators over one denominator: the value itself, the
ends of its interval, and whether the ends belong to it. -/
structure Interval where
  value : Nat
  low : Nat
  high : Nat
  den : Nat
  closed : Bool

/-- The interval of `m · 2 ^ q`. Below a power of two the neighbour is half as far away. -/
def Interval.of (m : Nat) (q : Int) : Interval :=
  let unit := twoTo (q - 2).toNat
  let below := if m == twoTo 52 && q > -1074 then 1 else 2
  { value := 4 * m * unit
    low := (4 * m - below) * unit
    high := (4 * m + 2) * unit
    den := twoTo (2 - q).toNat
    closed := m % 2 == 0 }

/-- Whether the real `num / i.den` rounds to the value of the interval. -/
def Interval.contains (i : Interval) (num : Nat) : Bool :=
  if i.closed then i.low ≤ num && num ≤ i.high else i.low < num && num < i.high

/-- The interval stretched by powers of ten, so that the grid of step `10 ^ s` has step `den`. -/
def Interval.onGrid (i : Interval) (s : Int) : Interval :=
  let up := tenTo (-s).toNat
  { i with
    value := i.value * up
    low := i.low * up
    high := i.high * up
    den := i.den * tenTo s.toNat }

/-- The grid point of step `10 ^ s` nearest to the value, if it or the point on the other side of
the value lies in the interval. -/
def Interval.hit? (i : Interval) (s : Int) : Option Scaled :=
  let g := i.onGrid s
  let d := g.value / g.den
  let below := g.value - d * g.den
  let above := (d + 1) * g.den - g.value
  let pick (n : Nat) : Option Scaled := some ⟨n, s⟩
  match g.contains (d * g.den), g.contains ((d + 1) * g.den) with
  | true, true => if below < above || (below == above && d % 2 == 0) then pick d else pick (d + 1)
  | true, false => pick d
  | false, true => pick (d + 1)
  | false, false => none

/-- The shortest decimal that rounds to `m · 2 ^ q`, for `m > 0`. Seventeen digits always
suffice. -/
def shortest (m : Nat) (q : Int) : Scaled :=
  let i := Interval.of m q
  let first := magnitude i.value i.den
  match (List.range 17).findSome? fun n : Nat => i.hit? (first - n) with
  | some d => d.strip
  | none => ⟨0, 0⟩

/-! ## Writing -/

/-- The exponents of the first digit for which a decimal is written with its point in place; all
others are written with an exponent. -/
structure Style where
  least : Int
  most : Int

/-- The decimal in the given style: digits around a point, always with one digit on either side, or
a digit, a fraction if there is one, and a signed exponent. -/
def Style.write (style : Style) (d : Scaled) : String :=
  let digits := Nat.toDigits 10 d.digits
  let first : Int := digits.length + d.exponent - 1
  let chars :=
    if style.least ≤ first && first ≤ style.most then
      if d.exponent ≥ 0 then digits ++ List.replicate d.exponent.toNat '0' ++ ['.', '0']
      else if first ≥ 0 then
        digits.take (first.toNat + 1) ++ '.' :: digits.drop (first.toNat + 1)
      else ['0', '.'] ++ List.replicate (-first - 1).toNat '0' ++ digits
    else
      let fraction := digits.drop 1
      digits.take 1 ++ (if fraction.isEmpty then [] else '.' :: fraction) ++
        ['e', if first < 0 then '-' else '+'] ++ Nat.toDigits 10 first.natAbs
  String.ofList chars

/-- The text of a finite double, or none. -/
def Style.text? (style : Style) (x : Float) : Option String :=
  match Parts.ofFloat x with
  | .finite negative m q =>
    let text := if m == 0 then "0.0" else style.write (shortest m q)
    some (if negative then "-" ++ text else text)
  | _ => none

end Dossier.Decimal
