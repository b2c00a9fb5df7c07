import Dossier.Decimal.Nearest
import Dossier.Json.SyntaxError
import Dossier.Json.Value
import Dossier.Text.Radix

/-!
# The numbers of JSON text

A number without fraction and exponent is whole if it fits in 64 bits, with or without sign. Every
other number is a double: its digits are collected while they stay below `2 ^ 64`, and the double
nearest to them is then scaled by one power of ten, so that a long number may miss the nearest
double by one place. Minus zero is a double.
-/

namespace Dossier.Json

/-- A number as it is spelt: its digits before the point, those after it, and its exponent. -/
structure Spelling where
  negative : Bool
  whole : List Char
  fraction : Option (List Char)
  /-- The digits of the exponent, and whether it is negative. -/
  exponent : Option (Bool × List Char)

/-- Collects digits after `n` while the number stays below `2 ^ 64`. Answers with the number and
with the digits left over. -/
def collect (n : Nat) : List Char → Nat × List Char
  | [] => (n, [])
  | c :: cs =>
    let next := 10 * n + Text.digitValue c
    if next < Decimal.wordCount then collect next cs else (n, c :: cs)

/-- The double `x · 10 ^ exponent`, scaled down in steps of `10 ^ 308` and then once. It is out of
range if it is infinite. -/
def scale (x : Float) (exponent : Int) : Except SyntaxError Float :=
  if exponent.natAbs ≤ 308 then
    let power := Decimal.nearest (Decimal.tenTo exponent.natAbs) 1
    if exponent ≥ 0 then
      let y := x * power
      if y.isInf then .error .numberOutOfRange else .ok y
    else .ok (x / power)
  else if x == 0.0 then .ok x
  else if exponent ≥ 0 then .error .numberOutOfRange
  else scale (x / Decimal.nearest (Decimal.tenTo 308) 1) (exponent + 308)
termination_by exponent.natAbs
decreasing_by omega

/-- The double a spelling stands for, given the digits collected and the exponent they carry. An
exponent of more than 31 bits decides alone. -/
def Spelling.double (s : Spelling) (digits : Nat) (carried : Int) : Except SyntaxError Float := do
  let x ← match s.exponent with
    | none => scale (Float.ofNat digits) carried
    | some (down, cs) =>
      let n := Text.ofDigits cs
      if n ≥ Decimal.twoTo 31 then
        if digits != 0 && !down then .error .numberOutOfRange else .ok 0.0
      else scale (Float.ofNat digits) (if down then carried - n else carried + n)
  return if s.negative then -x else x

/-- The number a spelling stands for. -/
def Spelling.number (s : Spelling) : Except SyntaxError Value :=
  let (digits, surplus) := collect 0 s.whole
  match s.fraction, s.exponent, surplus with
  | none, none, [] =>
    if !s.negative then .ok (.int digits)
    else if digits == 0 || digits > Decimal.positiveCount then .ok (.float (-(Float.ofNat digits)))
    else .ok (.int (-(digits : Int)))
  | fraction, _, _ =>
    let cs := fraction.getD []
    let (all, left) := collect digits cs
    let taken := cs.length - left.length
    (s.double all ((surplus.length : Int) - taken)).map .float

end Dossier.Json
