import Dossier.Toml.Scalar
import Dossier.Toml.Table
import Dossier.Toml.Token

/-!
# The lines of TOML text

A line is the header of a table, or sets a key to a value. Values may go on over several lines
where they stand in brackets or braces.
-/

namespace Dossier.Toml

open Dossier.Text (Rest Tail)
open Json (Value)

namespace Token

/-- A blank. -/
def isBlank : Token → Bool
  | blank _ => true
  | _ => false

/-- A blank or the end of a line. -/
def isGap : Token → Bool
  | blank _ | newline => true
  | _ => false

/-- The key that a token is. A key that is not quoted consists of letters, digits, `_` and `-` of
ASCII. -/
def key? : Token → Option String
  | word s => if s.toList.all fun c => c.isAlphanum || c == '_' || c == '-' then some s else none
  | text s false => some s
  | _ => none

/-- The spelling of a piece of a number. -/
def piece? : Token → Option (List Char)
  | word s => some s.toList
  | dot => some ['.']
  | _ => none

end Token

/-- What follows the blanks at the front of tokens. -/
def skipBlanks (ts : List Token) : Tail ts := .dropWhile Token.isBlank ts

/-- What follows the blanks and line ends at the front of tokens. -/
def skipGaps (ts : List Token) : Tail ts := .dropWhile Token.isGap ts

/-- The token after the blanks at the front of tokens, and what follows it. -/
def nextToken? (ts : List Token) : Option (Token × Rest ts) := (skipBlanks ts).next?

/-- A key at the front of tokens, whose parts stand between dots, and what follows it. -/
def readKey (ts : List Token) : Option (List String × Rest ts) :=
  match ts with
  | [] => none
  | t :: ts => do
    let key ← t.key?
    match nextToken? ts with
    | some (.dot, r) =>
      let (more, s) ← readKey (skipBlanks r.val).val
      return (key :: more, (r.trans ((skipBlanks r.val).rest s)).cons t)
    | _ => return ([key], .tail t ts)
termination_by ts.length
decreasing_by
  have := r.property
  have := (skipBlanks r.val).property
  simp only [List.length_cons]
  omega

/-! ## Values -/

/-- The spellings of the pieces of a number or date at the front of tokens. -/
def pieces : List Token → List (List Char)
  | [] => []
  | t :: ts =>
    match t.piece? with
    | some cs => cs :: pieces ts
    | none => []

/-- What a word stands for together with the pieces at the front of the tokens after it, and the
number of tokens that belong to it. A space may stand between a date and a time of day. -/
def readWord (word : String) (ts : List Token) : Option (Value × Nat) :=
  let first := pieces ts
  let text := word.toList ++ first.flatten
  match isDate text, ts.drop first.length with
  | true, .blank " " :: more =>
    let second := pieces more
    let time := second.flatten
    if time.head?.any Char.isDigit then
      (readScalar? (text ++ ' ' :: time)).map (·, first.length + 1 + second.length)
    else (readScalar? text).map (·, first.length)
  | _, _ => (readScalar? text).map (·, first.length)

/-- A key and the value that it is set to. -/
abbrev Setting := List String × Value

/-- The table that settings make up. -/
def Entries.ofSettings : List Setting → Entries → Option Entries
  | [], es => some es
  | (path, v) :: rest, es => do ofSettings rest (← Entries.set v path es)

mutual

/-- The value at the front of tokens and what follows it, if at most `room` arrays and inline
tables lie within one another. -/
def readValue (room : Nat) (ts : List Token) : Option (Value × Rest ts) :=
  match ts with
  | [] => none
  | t :: ts =>
    match t with
    | .text s _ => some (.string s, .tail _ _)
    | .word s => (readWord s ts).map fun (v, n) => (v, (Tail.drop n ts).after _)
    | .openArray =>
      match room with
      | 0 => none
      | room + 1 => (readItems room ts).map fun (items, r) => (.array items, r.cons _)
    | .openTable =>
      match room with
      | 0 => none
      | room + 1 => do
        let (settings, r) ← readSettings room ts
        return ((← Entries.ofSettings settings []).toValue, r.cons _)
    | _ => none
termination_by 3 * ts.length
decreasing_by all_goals simp only [List.length_cons]; omega

/-- The items of an array after its bracket or after a comma, up to the bracket that closes it. -/
def readItems (room : Nat) (ts : List Token) : Option (List Value × Rest ts) :=
  let start := skipGaps ts
  match start.next? with
  | some (.closeArray, r) => some ([], r)
  | _ => do
    let (v, r) ← readValue room start.val
    match (skipGaps r.val).next? with
    | some (.closeArray, s) => return ([v], start.rest (r.trans s))
    | some (.comma, s) =>
      let (more, u) ← readItems room s.val
      return (v :: more, start.rest (r.trans (s.trans u)))
    | _ => none
termination_by 3 * ts.length + 1
decreasing_by
  · have := (skipGaps ts).property
    omega
  · have := (skipGaps ts).property
    have := r.property
    have := s.property
    omega

/-- A key, an equals sign and a value on one line. -/
def readSetting (room : Nat) (ts : List Token) : Option (Setting × Rest ts) := do
  let (path, r) ← readKey ts
  match nextToken? r.val with
  | some (.equals, s) =>
    let start := skipBlanks s.val
    let (v, u) ← readValue room start.val
    return ((path, v), r.trans (s.trans (start.rest u)))
  | _ => none
termination_by 3 * ts.length
decreasing_by
  have := r.property
  have := s.property
  have := (skipBlanks s.val).property
  omega

/-- The settings of an inline table after its brace or after a comma, up to the brace that closes
it. -/
def readSettings (room : Nat) (ts : List Token) : Option (List Setting × Rest ts) :=
  let start := skipGaps ts
  match start.next? with
  | some (.closeTable, r) => some ([], r)
  | _ => do
    let (setting, r) ← readSetting room start.val
    match (skipGaps r.val).next? with
    | some (.closeTable, s) => return ([setting], start.rest (r.trans s))
    | some (.comma, s) =>
      let (more, u) ← readSettings room s.val
      return (setting :: more, start.rest (r.trans (s.trans u)))
    | _ => none
termination_by 3 * ts.length + 1
decreasing_by
  · have := (skipGaps ts).property
    omega
  · have := (skipGaps ts).property
    have := r.property
    have := s.property
    omega

end

/-! ## Lines -/

/-- What a line says: that settings of a table or of a further table in a list follow, or a
setting. -/
inductive Line where
  | table (path : List String)
  | element (path : List String)
  | setting (path : List String) (v : Value)

/-- The number of arrays and inline tables that may lie within one another. -/
def depthLimit : Nat := 80

/-- The key of a header after its bracket, and what follows the bracket that closes it. -/
def readHeader (ts : List Token) : Option (List String × Rest ts) := do
  let start := skipBlanks ts
  let (path, r) ← readKey start.val
  match nextToken? r.val with
  | some (.closeArray, s) => return (path, start.rest (r.trans s))
  | _ => none

/-- The line at the front of tokens, and what follows it. -/
def readLine (ts : List Token) : Option (Line × Rest ts) :=
  match ts with
  | .openArray :: .openArray :: ts => do
    let (path, r) ← readHeader ts
    match (Tail.all r.val).next? with
    | some (.closeArray, s) => return (.element path, ((r.trans s).cons _).cons _)
    | _ => none
  | .openArray :: ts => (readHeader ts).map fun (path, r) => (.table path, r.cons _)
  | ts => (readSetting depthLimit ts).map fun ((path, v), r) => (.setting path v, r)

/-- The lines that tokens make up. -/
def readLines (ts : List Token) : Option (List Line) :=
  let start := skipGaps ts
  if start.val.isEmpty then some []
  else do
    let (line, r) ← readLine start.val
    match nextToken? r.val with
    | none => return [line]
    | some (.newline, s) => return line :: (← readLines s.val)
    | _ => none
termination_by ts.length
decreasing_by
  have := (skipGaps ts).property
  have := r.property
  have := s.property
  omega

end Dossier.Toml
