import Dossier.Calendar.Date
import Dossier.Decimal.Nearest
import Dossier.Json.Value
import Dossier.Text.Radix

/-!
# Numbers, truth values and dates in TOML

A word stands for a truth value, a whole number, a fractional number, or a date or time of day.
Numbers have no needless zeros at their front, and underscores only between digits.
-/

namespace Dossier.Toml

open Json (Value)

/-! ## Numbers -/

/-- The digits of a text without the underscores between them. -/
def ungroup? (isDigit : Char → Bool) : List Char → Option (List Char)
  | [] => none
  | [c] => if isDigit c then some [c] else none
  | c :: '_' :: cs => if isDigit c then (ungroup? isDigit cs).map (c :: ·) else none
  | c :: cs => if isDigit c then (ungroup? isDigit cs).map (c :: ·) else none

/-- The digits of a decimal number without needless zeros. -/
def decimalDigits? (cs : List Char) : Option (List Char) :=
  match ungroup? Char.isDigit cs with
  | some ('0' :: _ :: _) => none
  | digits => digits

/-- The number that a text writes in a base other than ten. -/
def readBased? (base : Nat) (cs : List Char) : Option Nat := do
  Text.readDigits? base (← ungroup? (fun c => (Text.hexValue? c).any (· < base)) cs)

/-- The whole number of any size that a text writes. -/
def readWhole? (cs : List Char) : Option Int :=
  match cs with
  | '0' :: 'x' :: cs => (readBased? 16 cs).map Int.ofNat
  | '0' :: 'o' :: cs => (readBased? 8 cs).map Int.ofNat
  | '0' :: 'b' :: cs => (readBased? 2 cs).map Int.ofNat
  | cs =>
    let (negative, digits) := Decimal.splitSign cs
    (decimalDigits? digits).map fun digits =>
      if negative then -(Text.ofDigits digits : Int) else Text.ofDigits digits

/-- Whether a whole number is one of 128 bits, with or without sign. -/
def isWholeInRange (i : Int) : Bool := -(Decimal.twoTo 127 : Int) ≤ i && i < Decimal.twoTo 128

/-- The letter of an exponent. -/
def isExponentMark (c : Char) : Bool := c == 'e' || c == 'E'

/-- The digits that follow a mark. -/
def digitsAfter? : List Char → Option (List Char)
  | [] => some []
  | _ :: cs => ungroup? Char.isDigit cs

/-- The double that a text writes. It must not be beyond the range of doubles. -/
def readFloat? (cs : List Char) : Option Float := do
  let (negative, body) := Decimal.splitSign cs
  let infinity := Float.ofBits 0x7ff0000000000000
  if body == "inf".toList then return if negative then -infinity else infinity
  if body == "nan".toList then return Float.ofBits 0x7ff8000000000000
  let significand := body.takeWhile fun c => !isExponentMark c
  let exponent := body.drop significand.length
  let whole := significand.takeWhile (· != '.')
  let fraction := significand.drop whole.length
  let wholeDigits ← decimalDigits? whole
  let fractionDigits ← digitsAfter? fraction
  let (down, power) := Decimal.splitSign (exponent.drop 1)
  let powerDigits ← if exponent.isEmpty then some ['0'] else ungroup? Char.isDigit power
  let shift : Int := Text.ofDigits powerDigits
  let x := Decimal.ofScaled (Text.ofDigits (wholeDigits ++ fractionDigits))
    ((if down then -shift else shift) - fractionDigits.length)
  if x.isInf then none else return if negative then -x else x

/-! ## Dates -/

/-- The number of a text of exactly `width` digits. -/
def readFixed? (width : Nat) (cs : List Char) : Option Nat :=
  if cs.length == width && cs.all Char.isDigit then some (Text.ofDigits cs) else none

/-- Whether a text is a date of the calendar in the form `YYYY-MM-DD`. -/
def isDate (cs : List Char) : Bool :=
  (do
    let year ← readFixed? 4 (cs.take 4)
    let month ← readFixed? 2 ((cs.drop 5).take 2)
    let day ← readFixed? 2 ((cs.drop 8).take 2)
    if cs.length == 10 && cs[4]? == some '-' && cs[7]? == some '-' then
      Date.of? (year : Int) month day
    else none).isSome

/-- Whether a text is an hour and a minute in the form `HH:MM`. -/
def isClock (cs : List Char) : Bool :=
  (do
    let hour ← readFixed? 2 (cs.take 2)
    let minute ← readFixed? 2 (cs.drop 3)
    if cs[2]? == some ':' && hour ≤ 23 && minute ≤ 59 then some () else none).isSome

/-- Whether a text is nothing, or seconds after a colon, with or without a fraction. A leap second
counts. -/
def isSeconds : List Char → Bool
  | [] => true
  | ':' :: cs =>
    (readFixed? 2 (cs.take 2)).any (· ≤ 60) &&
      match cs.drop 2 with
      | [] => true
      | '.' :: digits => !digits.isEmpty && digits.all Char.isDigit
      | _ => false
  | _ => false

/-- Whether a text is a time of day. -/
def isTime (cs : List Char) : Bool := isClock (cs.take 5) && isSeconds (cs.drop 5)

/-- Whether a text is a time of day that may be followed by its offset. -/
def isOffsetTime (cs : List Char) : Bool :=
  let time := cs.takeWhile fun c => c.isDigit || c == ':' || c == '.'
  isTime time &&
    match cs.drop time.length with
    | [] | ['Z'] | ['z'] => true
    | sign :: offset => (sign == '+' || sign == '-') && isClock offset

/-- Whether a text is a date, a time of day, or both. -/
def isMoment (cs : List Char) : Bool :=
  isTime cs || isDate cs ||
    (isDate (cs.take 10) && cs[10]?.any ['T', 't', ' '].contains && isOffsetTime (cs.drop 11))

/-- The name of the only member of the object that a date is given as. -/
def momentKey : String := "$__toml_private_datetime"

/-! ## Words -/

/-- What a word stands for. A date is an object with one member, so that it is never taken for a
text. -/
def readScalar? (cs : List Char) : Option Value :=
  if cs == "true".toList then some (.bool true)
  else if cs == "false".toList then some (.bool false)
  else if isMoment cs then some (.object [(momentKey, .string (String.ofList cs))])
  else
    match readWhole? cs with
    | some i => if isWholeInRange i then some (.int i) else none
    | none => (readFloat? cs).map .float

end Dossier.Toml
