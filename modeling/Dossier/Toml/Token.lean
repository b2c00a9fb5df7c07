import Dossier.Text.Escape
import Dossier.Text.Rest

/-!
# The tokens of TOML text

`tokens` cuts a text into punctuation, blanks, line ends, strings and words, and drops comments.
What a word stands for depends on its place, and a number with a point comes in three pieces. Where
the text cannot be cut further the last token is `broken`.
-/

namespace Dossier.Toml

open Dossier.Text (Tail)

/-- A piece of TOML text. -/
inductive Token where
  | dot
  | equals
  | comma
  | openArray
  | closeArray
  | openTable
  | closeTable
  | newline
  | blank (s : String)
  | word (s : String)
  /-- A string, and whether it is written in the form for several lines. -/
  | text (s : String) (lines : Bool)
  | broken
  deriving DecidableEq, Repr

/-- A character that stands in no string and no comment. Tabs and line ends have rules of their
own. -/
def isControl (c : Char) : Bool := (c.toNat < 0x20 && c != '\t') || c == '\x7f'

/-- A character that separates words on a line. -/
def isSpace (c : Char) : Bool := c == ' ' || c == '\t'

/-! ## Strings -/

/-- How a string is quoted, and whether it may have several lines. -/
structure Quoting where
  quote : Char
  lines : Bool
  deriving DecidableEq, Repr

/-- The characters that escapes of one letter stand for. -/
def escapes : List (Char × Char) :=
  [('b', '\x08'), ('t', '\t'), ('n', '\n'), ('f', '\x0c'), ('r', '\r'), ('e', '\x1b'), ('"', '"'),
    ('\\', '\\')]

/-- Whether the character `c` may stand in a string before `cs`. -/
def Quoting.admits (q : Quoting) (c : Char) (cs : List Char) : Bool :=
  if c == '\n' then q.lines
  else if c == '\r' then q.lines && cs.head? == some '\n'
  else !isControl c

/-- The number of spaces and line ends at the front of a text. -/
def gapLength : List Char → Nat
  | [] => 0
  | '\r' :: '\n' :: cs => gapLength cs + 2
  | c :: cs => if isSpace c || c == '\n' then gapLength cs + 1 else 0

/-- The rest of a string whose characters `done`, kept reversed, are read already. Up to two quotes
before the three that close a string of several lines belong to it. Between double quotes a
backslash at the end of a line takes the gap after it away. -/
def readString (q : Quoting) (done : List Char) (cs : List Char) : Option (String × Tail cs) :=
  match cs with
  | [] => none
  | c :: cs =>
    let skip (done : List Char) (n : Nat) : Option (String × Tail (c :: cs)) :=
      (readString q done (cs.drop n)).map fun (s, t) => (s, ((Tail.drop n cs).trans t).cons c)
    if c == q.quote then
      let more := (cs.takeWhile (· == q.quote)).length
      if !q.lines then some (String.ofList done.reverse, (Tail.all cs).cons c)
      else if more < 2 then skip (c :: done) 0
      else
        let taken := min more 4
        some (String.ofList (done.reverse ++ List.replicate (taken - 2) c),
          (Tail.drop taken cs).cons c)
    else if c == '\\' && q.quote == '"' then
      let gap := gapLength cs
      if q.lines && (cs.take gap).contains '\n' then skip done gap
      else
        match Text.escape? escapes cs with
        | some (x, n) => skip (x :: done) n
        | none => none
    else if q.admits c cs then skip (c :: done) 0
    else none
termination_by cs.length
decreasing_by simp only [List.length_drop, List.length_cons]; omega

/-- The number of characters of a line end at the front of a text. -/
def lineEndLength : List Char → Nat
  | '\n' :: _ => 1
  | '\r' :: '\n' :: _ => 2
  | _ => 0

/-- A string after its first quote. A line end after three opening quotes does not belong to it. -/
def readQuoted (quote : Char) (cs : List Char) : Option (Token × Tail cs) :=
  if [quote, quote].isPrefixOf cs then
    let start := 2 + lineEndLength (cs.drop 2)
    (readString ⟨quote, true⟩ [] (cs.drop start)).map fun (s, t) =>
      (.text s true, (Tail.drop start cs).trans t)
  else (readString ⟨quote, false⟩ [] cs).map fun (s, t) => (.text s false, t)

/-! ## Tokens -/

/-- The token that a character is on its own. -/
def mark? : Char → Option Token
  | '.' => some .dot
  | '=' => some .equals
  | ',' => some .comma
  | '[' => some .openArray
  | ']' => some .closeArray
  | '\x7b' => some .openTable
  | '\x7d' => some .closeTable
  | '\n' => some .newline
  | _ => none

/-- A character of a word. -/
def isWordChar (c : Char) : Bool :=
  (mark? c).isNone && !isSpace c && c != '\r' && c != '#' && c != '"' && c != '\''

/-- The tokens of a text. -/
def tokens (cs : List Char) : List Token :=
  match cs with
  | [] => []
  | c :: cs =>
    match mark? c with
    | some t => t :: tokens cs
    | none =>
      if c == '\r' then if cs.head? == some '\n' then tokens cs else [.broken]
      else if c == '#' then
        let comment := cs.takeWhile fun x => x != '\n' && x != '\r'
        if comment.any isControl then [.broken] else tokens (cs.drop comment.length)
      else if c == '"' || c == '\'' then
        match readQuoted c cs with
        | some (t, tail) => t :: tokens tail.val
        | none => [.broken]
      else
        let more := cs.takeWhile (if isSpace c then isSpace else isWordChar)
        let run := String.ofList (c :: more)
        (if isSpace c then .blank run else .word run) :: tokens (cs.drop more.length)
termination_by cs.length
decreasing_by
  · simp only [List.length_cons]
    omega
  · simp only [List.length_cons]
    omega
  · simp only [List.length_drop, List.length_cons]
    omega
  · have := tail.property
    simp only [List.length_cons]
    omega
  · simp only [List.length_drop, List.length_cons]
    omega

end Dossier.Toml
