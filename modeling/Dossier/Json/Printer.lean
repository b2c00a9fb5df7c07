import Dossier.Decimal.Shortest
import Dossier.Json.Value

/-!
# Writing JSON

`Value.compact` writes a value without any blank, `Value.pretty` over several lines, two spaces
deeper for each level, an empty array or object staying on one line.
-/

namespace Dossier.Json

/-- Fractional numbers show their point in place from `1e-5` up to `1e16`. -/
def numberStyle : Decimal.Style := ⟨-5, 15⟩

/-- The text of a fractional number; what is no number is `null`. -/
def floatText (x : Float) : String := (numberStyle.text? x).getD "null"

/-- The digit of a number below sixteen. -/
def hexDigit (n : Nat) : Char := Nat.digitChar (n % 16)

/-- The characters that stand for one character inside a string: quotes, backslashes and control
characters are escaped, all others stand for themselves. -/
def escapedChar (c : Char) : List Char :=
  if c == '"' then ['\\', '"']
  else if c == '\\' then ['\\', '\\']
  else if c == '\x08' then ['\\', 'b']
  else if c == '\t' then ['\\', 't']
  else if c == '\n' then ['\\', 'n']
  else if c == '\x0c' then ['\\', 'f']
  else if c == '\r' then ['\\', 'r']
  else if c.toNat < 0x20 then ['\\', 'u', '0', '0', hexDigit (c.toNat / 16), hexDigit c.toNat]
  else [c]

/-- A string between quotes. -/
def quoted (s : String) : String := String.ofList ('"' :: s.toList.flatMap escapedChar ++ ['"'])

mutual

/-- The value on one line without blanks. -/
def Value.compact : Value → String
  | .null => "null"
  | .bool b => if b then "true" else "false"
  | .int i => toString i
  | .float x => floatText x
  | .string s => quoted s
  | .array items => "[" ++ compactItems items ++ "]"
  | .object members => "\x7b" ++ compactMembers members ++ "\x7d"

/-- Items with commas between them. -/
def compactItems : List Value → String
  | [] => ""
  | [v] => v.compact
  | v :: rest => v.compact ++ "," ++ compactItems rest

/-- Members with commas between them. -/
def compactMembers : List (String × Value) → String
  | [] => ""
  | [(k, v)] => quoted k ++ ":" ++ v.compact
  | (k, v) :: rest => quoted k ++ ":" ++ v.compact ++ "," ++ compactMembers rest

end

/-- The start of a line at the given depth. -/
def newLine (depth : Nat) : String := "\n" ++ String.ofList (List.replicate (2 * depth) ' ')

mutual

/-- The value over several lines, its own line being at the given depth. -/
def Value.prettyAt (depth : Nat) : Value → String
  | .array (v :: rest) => "[" ++ prettyItems (depth + 1) (v :: rest) ++ newLine depth ++ "]"
  | .object (m :: rest) =>
    "\x7b" ++ prettyMembers (depth + 1) (m :: rest) ++ newLine depth ++ "\x7d"
  | .array [] => "[]"
  | .object [] => "\x7b\x7d"
  | .null => "null"
  | .bool b => if b then "true" else "false"
  | .int i => toString i
  | .float x => floatText x
  | .string s => quoted s

/-- Items each on a line of its own. -/
def prettyItems (depth : Nat) : List Value → String
  | [] => ""
  | [v] => newLine depth ++ v.prettyAt depth
  | v :: rest => newLine depth ++ v.prettyAt depth ++ "," ++ prettyItems depth rest

/-- Members each on a line of its own. -/
def prettyMembers (depth : Nat) : List (String × Value) → String
  | [] => ""
  | [(k, v)] => newLine depth ++ quoted k ++ ": " ++ v.prettyAt depth
  | (k, v) :: rest =>
    newLine depth ++ quoted k ++ ": " ++ v.prettyAt depth ++ "," ++ prettyMembers depth rest

end

/-- The value over several lines. -/
def Value.pretty (v : Value) : String := v.prettyAt 0

end Dossier.Json
