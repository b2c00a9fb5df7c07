/-!
# Places in YAML text

A cursor is a place in a text: what is still to be read, and the line and column reached. Line ends
are first brought to one form (`unifyBreaks`); the two separators of lines and paragraphs stay
apart from it.
-/

namespace Dossier.Yaml

/-- The characters that YAML text may hold. -/
def isAllowed (c : Char) : Bool :=
  c == '\t' || c == '\n' || c == '\r' || (' ' ≤ c && c ≤ '~') || c == '\u0085' ||
    ('\u00a0' ≤ c && c ≤ '\ufffd') || 0x10000 ≤ c.toNat

/-- The text with every line end written as a line feed. -/
def unifyBreaks : List Char → List Char
  | '\r' :: '\n' :: cs => '\n' :: unifyBreaks cs
  | c :: cs => (if c == '\r' || c == '\u0085' then '\n' else c) :: unifyBreaks cs
  | [] => []

/-- A character that ends a line. -/
def isBreak (c : Char) : Bool := c == '\n' || c == '\u2028' || c == '\u2029'

/-- A character that separates words on a line. -/
def isSpace (c : Char) : Bool := c == ' ' || c == '\t'

/-- A character that is neither a space nor the end of a line. -/
def isInk (c : Char) : Bool := !isSpace c && !isBreak c

/-- Whether a word may end before what follows: a space, the end of a line or of the text. -/
def endsWord (cs : List Char) : Bool := !cs.head?.any isInk

/-- The characters of names: letters, digits, `_` and `-`. -/
def isNameChar (c : Char) : Bool := c.isAlphanum || c == '_' || c == '-'

/-- A place in a text. -/
structure Cursor where
  rest : List Char
  line : Nat
  column : Nat

namespace Cursor

/-- The start of a text. -/
def start (cs : List Char) : Cursor := ⟨cs, 0, 0⟩

/-- The place after a character, on the same line unless the character ends it. -/
def after (c : Cursor) (x : Char) (rest : List Char) : Cursor :=
  if isBreak x then ⟨rest, c.line + 1, 0⟩ else ⟨rest, c.line, c.column + 1⟩

/-- The place after the next character. -/
def next (c : Cursor) : Cursor :=
  match c.rest with
  | [] => c
  | x :: xs => c.after x xs

/-- The place after `n` characters of the same line. -/
def skip (c : Cursor) (n : Nat) : Cursor := ⟨c.rest.drop n, c.line, c.column + n⟩

/-- The characters from here on that satisfy `p`, all on one line, and the place after them. -/
def span (c : Cursor) (p : Char → Bool) : List Char × Cursor :=
  let taken := c.rest.takeWhile fun x => p x && !isBreak x
  (taken, c.skip taken.length)

/-- The place after the spaces that stand here. -/
def skipSpaces (c : Cursor) : Cursor := (c.span isSpace).2

/-- The place after the rest of a line that holds nothing but spaces and a comment. -/
def skipComment? (c : Cursor) : Option Cursor :=
  let c := c.skipSpaces
  let c := if c.rest.head? == some '#' then (c.span fun _ => true).2 else c
  match c.rest with
  | [] => some c
  | x :: _ => if isBreak x then some c.next else none

/-- Whether three times the character `x` stand at the start of a line as a word. -/
def atMark (c : Cursor) (x : Char) : Bool :=
  c.column == 0 && c.rest.take 3 == [x, x, x] && endsWord (c.rest.drop 3)

/-- Whether a mark stands here that begins or ends a document. -/
def atDocumentMark (c : Cursor) : Bool := c.atMark '-' || c.atMark '.'

end Cursor

end Dossier.Yaml
