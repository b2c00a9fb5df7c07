import Dossier.Text.Blank
import Dossier.Text.Radix

/-!
# Calendar dates

Dates of the Gregorian calendar, extended to all years, and their reading from text in the form
`YYYY-MM-DD`. Reading is lenient about blanks before a number and about leading zeros, but not
about anything else: what it accepts is a date of the calendar.
-/

namespace Dossier

/-- Whether a year has a leap day. -/
def isLeapYear (year : Int) : Bool := year % 4 == 0 && (year % 100 != 0 || year % 400 == 0)

/-- The number of days of a month. -/
def daysInMonth (year : Int) (month : Nat) : Nat :=
  match month with
  | 2 => if isLeapYear year then 29 else 28
  | 4 | 6 | 9 | 11 => 30
  | _ => 31

/-- A day of the calendar. -/
structure Date where
  year : Int
  month : Nat
  day : Nat
  month_mem : 1 ≤ month ∧ month ≤ 12
  day_mem : 1 ≤ day ∧ day ≤ daysInMonth year month
  deriving DecidableEq, Repr

namespace Date

/-- The day of given numbers, if the calendar has it. -/
def of? (year : Int) (month day : Nat) : Option Date :=
  if hm : 1 ≤ month ∧ month ≤ 12 then
    if hd : 1 ≤ day ∧ day ≤ daysInMonth year month then some ⟨year, month, day, hm, hd⟩ else none
  else none

/-- Whether a day comes before another. -/
def before (a b : Date) : Bool :=
  a.year < b.year || (a.year == b.year &&
    (a.month < b.month || (a.month == b.month && a.day < b.day)))

/-- The number of days before the first of January of a year, counted from that of year 1. -/
def daysBeforeYear (year : Int) : Int :=
  let n := year - 1
  365 * n + n / 4 - n / 100 + n / 400

/-- The number of days of a year before its given month. -/
def daysBeforeMonth (year : Int) (month : Nat) : Nat :=
  (List.range (month - 1)).foldl (fun days m => days + daysInMonth year (m + 1)) 0

/-- The days from the first of January of year 1 to the given day. -/
def dayNumber (d : Date) : Int :=
  daysBeforeYear d.year + daysBeforeMonth d.year d.month + (d.day - 1)

/-- The days from one day to another. -/
def daysSince (later earlier : Date) : Int := later.dayNumber - earlier.dayNumber

/-! ## Reading -/

/-- The number that at most `most` digits at the front of a text write, and what follows them. -/
def readNumber (most : Nat) (cs : List Char) : Option (Nat × List Char) :=
  let digits := (cs.takeWhile Char.isDigit).take most
  if digits.isEmpty then none
  else some (Text.ofDigits digits, cs.drop digits.length)

/-- A year at the front of a text. Without a sign it has at most four digits. -/
def readYear (cs : List Char) : Option (Int × List Char) :=
  match cs with
  | '-' :: cs => (readNumber cs.length cs).map fun (n, rest) => (-(n : Int), rest)
  | '+' :: cs => (readNumber cs.length cs).map fun (n, rest) => ((n : Int), rest)
  | cs => (readNumber 4 cs).map fun (n, rest) => ((n : Int), rest)

/-- What follows a hyphen at the front of a text. -/
def readHyphen : List Char → Option (List Char)
  | '-' :: cs => some cs
  | _ => none

/-- The years for which days are counted. -/
def yearInRange (year : Int) : Bool := -262143 ≤ year && year ≤ 262142

/-- The date that a text writes. -/
def read? (text : String) : Option Date := do
  let (year, cs) ← readYear (Text.dropBlanks text.toList)
  let cs ← readHyphen cs
  let (month, cs) ← readNumber 2 (Text.dropBlanks cs)
  let cs ← readHyphen cs
  let (day, cs) ← readNumber 2 (Text.dropBlanks cs)
  if cs.isEmpty && yearInRange year then of? year month day else none

end Date

end Dossier
