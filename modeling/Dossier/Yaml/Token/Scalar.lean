import Dossier.Text.Escape
import Dossier.Yaml.Gap
import Dossier.Yaml.Token.Basic

/-!
# Scalars

The three ways of writing a text: plain, between quotes, and as a block of lines.
-/

namespace Dossier.Yaml

/-- A scalar's text and the place after it. -/
abbrev ScalarEnd := List Char × Cursor

/-! ## Plain scalars -/

/-- The characters that end a plain scalar inside a flow collection. -/
def isFlowIndicator (c : Char) : Bool := [',', '[', ']', '\x7b', '\x7d'].contains c

/-- The word of a plain scalar at the front of a text, and what follows it. A colon ends the scalar
before a space; inside a flow collection it must not stand before an indicator. -/
def plainWord (inFlow : Bool) : List Char → Option (List Char × List Char)
  | [] => some ([], [])
  | x :: xs =>
    if !isInk x then some ([], x :: xs)
    else if inFlow && x == ':' && xs.head?.any (fun y => y == '?' || isFlowIndicator y) then none
    else if (x == ':' && endsWord xs) || (inFlow && isFlowIndicator x) then some ([], x :: xs)
    else (plainWord inFlow xs).map fun (word, rest) => (x :: word, rest)

/-- The rest of a plain scalar whose text so far is `done`, the last character first, followed by a
gap. The last component says whether the scalar ends after a line end. -/
def plainRest (inFlow : Bool) (indent : Nat) :
    (fuel : Nat) → (done gap : List Char) → (broken : Bool) → Cursor → Option (ScalarEnd × Bool)
  | 0, _, _, _, _ => none
  | fuel + 1, done, gap, broken, c =>
    if c.atDocumentMark || c.rest.head? == some '#' then some ((done.reverse, c), broken)
    else do
      let (word, rest) ← plainWord inFlow c.rest
      let done := if word.isEmpty then done else word.reverseAux (gap.reverseAux done)
      let broken := if word.isEmpty then broken else false
      let c : Cursor := ⟨rest, c.line, c.column + word.length⟩
      if c.rest.head?.all isInk then return ((done.reverse, c), broken)
      let (g, c) ← Gap.at? indent {} c
      if !inFlow && c.column < indent then return ((done.reverse, c), g.broken)
      plainRest inFlow indent fuel done g.text g.broken c

/-- A plain scalar, in a block that is indented by less than `indent`. -/
def plainScalar (inFlow : Bool) (indent : Nat) (c : Cursor) : Option (ScalarEnd × Bool) :=
  plainRest inFlow indent (c.rest.length + 1) [] [] false c

/-! ## Quoted scalars -/

/-- The characters that escapes of one letter stand for. -/
def escapes : List (Char × Char) :=
  [('0', '\x00'), ('a', '\x07'), ('b', '\x08'), ('t', '\t'), ('\t', '\t'), ('n', '\n'),
    ('v', '\x0b'), ('f', '\x0c'), ('r', '\r'), ('e', '\x1b'), (' ', ' '), ('"', '"'), ('/', '/'),
    ('\\', '\\'), ('N', '\u0085'), ('_', '\u00a0'), ('L', '\u2028'), ('P', '\u2029')]

/-- The rest of a quoted scalar whose text so far is `done`, the last character first. -/
def quotedRest (quote : Char) : (fuel : Nat) → (done : List Char) → Cursor → Option ScalarEnd
  | 0, _, _ => none
  | fuel + 1, done, c =>
    if c.atDocumentMark then none
    else
      match c.rest with
      | [] => none
      | x :: xs =>
        if x == quote then
          if quote == '\'' && xs.head? == some quote then
            quotedRest quote fuel (quote :: done) (c.skip 2)
          else some (done.reverse, c.skip 1)
        else if quote == '"' && x == '\\' then
          if xs.head?.any isBreak then do
            let (g, c) ← Gap.at? 0 { broken := true } (c.skip 1).next
            quotedRest quote fuel (g.text.reverseAux done) c
          else do
            let (y, length) ← Text.escape? escapes xs
            quotedRest quote fuel (y :: done) (c.skip (length + 1))
        else if isInk x then quotedRest quote fuel (x :: done) (c.skip 1)
        else do
          let (g, c) ← Gap.at? 0 {} c
          quotedRest quote fuel (g.text.reverseAux done) c

/-- A quoted scalar from its opening quote on. -/
def quotedScalar (quote : Char) (c : Cursor) : Option ScalarEnd :=
  quotedRest quote (c.rest.length + 1) [] (c.skip 1)

/-! ## Block scalars -/

/-- What becomes of the line ends at the end of a block. -/
inductive Chomping where
  | strip
  | clip
  | keep
  deriving DecidableEq

/-- The chomping that an indicator asks for. -/
def Chomping.ofChar? : Char → Option Chomping
  | '-' => some strip
  | '+' => some keep
  | _ => none

/-- The indentation that an indicator asks for. It is not zero. -/
def blockIndent? (c : Char) : Option Nat :=
  if c.isDigit && c != '0' then some (Text.digitValue c) else none

/-- The indicators of a block scalar, in either order, and what follows them. -/
def blockIndicators (cs : List Char) : Option Nat × Chomping × List Char :=
  match cs with
  | [] => (none, .clip, [])
  | x :: xs =>
    match Chomping.ofChar? x, blockIndent? x with
    | some chomping, _ =>
      match xs.head?.bind blockIndent? with
      | some n => (some n, chomping, xs.drop 1)
      | none => (none, chomping, xs)
    | none, some n =>
      match xs.head?.bind Chomping.ofChar? with
      | some chomping => (some n, chomping, xs.drop 1)
      | none => (some n, .clip, xs)
    | none, none => (none, .clip, cs)

/-- Line ends and indentation up to a line of a block, the greatest column reached by indentation,
and the place after them. The line ends met so far are `breaks`, the last one first. Indentation is
by spaces alone; without a limit it goes as far as they do. -/
def blockBreaks (limit : Option Nat) (deepest : Nat) (breaks : List Char) (line column : Nat) :
    List Char → Option (List Char × Nat × Cursor)
  | [] => some (breaks.reverse, deepest, ⟨[], line, column⟩)
  | x :: xs =>
    let inside := limit.all (column < ·)
    if inside && x == ' ' then
      blockBreaks limit (max deepest (column + 1)) breaks line (column + 1) xs
    else if inside && x == '\t' then none
    else if isBreak x then blockBreaks limit deepest (x :: breaks) (line + 1) 0 xs
    else some (breaks.reverse, deepest, ⟨x :: xs, line, column⟩)

/-- A block scalar as far as it is read: its text, the last character first, the end of its last
line, the line ends after that, and whether the last line begins with a space. -/
structure Block where
  text : List Char := []
  ending : Option Char := none
  breaks : List Char := []
  spaced : Bool := false

/-- What stands between a block and its next line. In a folded block the end of a line becomes a
space between lines that begin with no space, and is dropped where empty lines follow it. -/
def Block.joint (b : Block) (folded nextSpaced : Bool) : List Char :=
  if folded && b.ending == some '\n' && !b.spaced && !nextSpaced then
    if b.breaks.isEmpty then [' '] else b.breaks
  else b.ending.toList ++ b.breaks

/-- The lines of a block of the given indentation. -/
def blockLines (folded : Bool) (indent : Nat) :
    (fuel : Nat) → Block → Cursor → Option (Block × Cursor)
  | 0, _, _ => none
  | fuel + 1, b, c =>
    if c.rest.isEmpty || c.column != indent then some (b, c)
    else do
      let spaced := c.rest.head?.any isSpace
      let (line, c) := c.span fun _ => true
      let ending := c.rest.head?
      let c := c.next
      let (breaks, _, c) ← blockBreaks (some indent) 0 [] c.line c.column c.rest
      let text := line.reverseAux ((b.joint folded spaced).reverseAux b.text)
      blockLines folded indent fuel ⟨text, ending, breaks, spaced⟩ c

/-- The text of a block. -/
def Block.chomped (b : Block) : Chomping → List Char
  | .strip => b.text.reverse
  | .clip => b.text.reverse ++ b.ending.toList
  | .keep => b.text.reverse ++ b.ending.toList ++ b.breaks

/-- A block scalar from its indicator on, where the enclosing block lets content begin at column
`least`. -/
def blockScalar (folded : Bool) (least : Nat) (c : Cursor) : Option ScalarEnd := do
  let c := c.skip 1
  let (increment, chomping, rest) := blockIndicators c.rest
  let c ← (c.skip (c.rest.length - rest.length)).skipComment?
  let fixed := increment.map fun n => if least == 0 then n else least - 1 + n
  let (breaks, deepest, c) ← blockBreaks fixed 0 [] c.line c.column c.rest
  let indent := fixed.getD (max deepest (max least 1))
  let (b, c) ← blockLines folded indent (c.rest.length + 1) { breaks := breaks } c
  return (b.chomped chomping, c)

end Dossier.Yaml
