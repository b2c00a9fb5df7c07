import Dossier.Decimal.Nearest
import Dossier.Text.Radix

/-!
# What plain scalars stand for

A plain scalar stands for nothing, a truth value, a whole number or a fractional number if it is
spelt as one, and else for its text. Digits that begin with a zero are text.
-/

namespace Dossier.Yaml

/-- What a scalar stands for. -/
inductive Scalar where
  | null
  | bool (b : Bool)
  | int (i : Int)
  | float (x : Float)
  | string (s : String)

/-- Whether a text spells nothing. -/
def spellsNull (text : String) : Bool := ["~", "null", "Null", "NULL"].contains text

/-- The truth value that a text spells. -/
def readBool? (text : String) : Option Bool :=
  if ["true", "True", "TRUE"].contains text then some true
  else if ["false", "False", "FALSE"].contains text then some false
  else none

/-! ## Whole numbers -/

/-- The number in the notation of a base other than ten, marked by a letter after a zero. -/
def readBased? : List Char → Option Nat
  | '0' :: 'x' :: cs => Text.readDigits? 16 cs
  | '0' :: 'o' :: cs => Text.readDigits? 8 cs
  | '0' :: 'b' :: cs => Text.readDigits? 2 cs
  | _ => none

/-- Whether a text is a zero and further digits, possibly after a sign. -/
def hasLeadingZero (cs : List Char) : Bool :=
  let cs := match cs with
    | '-' :: cs | '+' :: cs => cs
    | cs => cs
  cs.length > 1 && cs.head? == some '0' && cs.all Char.isDigit

/-- The natural number of any size that a text with or without a plus sign spells. -/
def readUnsigned? (cs : List Char) : Option Nat :=
  let body := match cs with
    | '+' :: cs => cs
    | cs => cs
  match readBased? body with
  | some n => some n
  | none => if hasLeadingZero cs then none else Text.readDigits? 10 body

/-- The whole number of any size that a text with a minus sign spells, without its sign. -/
def readNegative? : List Char → Option Nat
  | '-' :: cs =>
    match readBased? cs with
    | some n => some n
    | none => if hasLeadingZero cs then none else Text.readDigits? 10 cs
  | _ => none

/-- A whole number by its size: one of 64 bits, one that is too large for that but not for 128
bits, or none. -/
inductive Whole where
  | fits (i : Int)
  | tooLarge

/-- The whole number that a text spells. Those without a minus sign have no sign bit. -/
def readWhole? (cs : List Char) : Option Whole :=
  match readUnsigned? cs, readNegative? cs with
  | some n, _ =>
    if n < Decimal.wordCount then some (.fits n)
    else if n < Decimal.twoTo 128 then some .tooLarge
    else none
  | none, some n =>
    if n ≤ Decimal.positiveCount then some (.fits (-(n : Int)))
    else if n ≤ Decimal.twoTo 127 then some .tooLarge
    else none
  | none, none => none

/-! ## Fractional numbers -/

/-- The words for infinity. -/
def infinityWords : List String := [".inf", ".Inf", ".INF"]

/-- The double that a text spells. What is beyond the range of doubles is none. -/
def readFloat? (text : String) : Option Float :=
  let cs := text.toList
  let body := match cs with
    | '+' :: cs => cs
    | cs => cs
  let infinity := Float.ofBits 0x7ff0000000000000
  if infinityWords.contains (String.ofList body) then some infinity
  else if cs.head? == some '-' && infinityWords.contains (String.ofList (cs.drop 1)) then
    some (-infinity)
  else if [".nan", ".NaN", ".NAN"].contains text then some (Float.ofBits 0x7ff8000000000000)
  else if cs.head? == some '+' && (body.head? == some '+' || body.head? == some '-') then none
  else (Decimal.read? body).filter Float.isFinite

/-! ## Scalars -/

/-- What a plain scalar stands for. A whole number that is too large is refused. -/
def Scalar.ofPlain? (text : String) : Option Scalar :=
  if text.isEmpty || spellsNull text then some .null
  else
    match readBool? text, readWhole? text.toList with
    | some b, _ => some (.bool b)
    | none, some (.fits i) => some (.int i)
    | none, some .tooLarge => none
    | none, none =>
      if hasLeadingZero text.toList then some (.string text)
      else
        match readFloat? text with
        | some x => some (.float x)
        | none => some (.string text)

/-- What a scalar with a tag of the core vocabulary stands for. It must be spelt as its tag says;
other tags are those of texts. -/
def Scalar.ofTagged? (tag text : String) : Option Scalar :=
  match tag with
  | "tag:yaml.org,2002:bool" => (readBool? text).map .bool
  | "tag:yaml.org,2002:int" =>
    match readWhole? text.toList with
    | some (.fits i) => some (.int i)
    | _ => none
  | "tag:yaml.org,2002:float" => (readFloat? text).map .float
  | "tag:yaml.org,2002:null" => if spellsNull text then some .null else none
  | _ => some (.string text)

end Dossier.Yaml
