import Dossier.Yaml.Token.Scalar
import Dossier.Yaml.Token.Tag

/-!
# Reading tokens

`Token.ofText?` cuts a text into tokens. Where a block begins and ends follows from indentation.
That a node is the key of a mapping is only seen at the colon after it, so a place where a key may
begin is kept as a candidate, and the key's token is put there afterwards. A key without a mark of
its own stays on one line and within 1024 characters.
-/

namespace Dossier.Yaml

/-- A place where a key may have begun: the number of tokens before it, its line and column, and
whether nothing but a key may stand there. -/
structure Candidate where
  required : Bool
  position : Nat
  line : Nat
  column : Nat

/-- The reading of tokens: the place reached, the tokens read (the last one first), the
indentations of the open blocks (the innermost first), whether a key may begin here, and the
candidate on each level of flow collections (the innermost first). -/
structure Lexer where
  cursor : Cursor
  tokens : List Token := []
  indents : List Nat := []
  keyAllowed : Bool := true
  candidates : List (Option Candidate) := [none]

namespace Lexer

/-- Whether a flow collection is open. -/
def inFlow (l : Lexer) : Bool := l.candidates.length > 1

/-- The column at which the content of a block inside the innermost one begins at the least. -/
def leastColumn (l : Lexer) : Nat := (l.indents.head?.map (· + 1)).getD 0

/-- Adds a token. -/
def emit (l : Lexer) (t : Token) : Lexer := { l with tokens := t :: l.tokens }

/-- Puts a token where `position` tokens stand before it. -/
def insert (l : Lexer) (position : Nat) (t : Token) : Lexer :=
  let later := l.tokens.length - position
  { l with tokens := l.tokens.take later ++ t :: l.tokens.drop later }

/-! ## Blocks -/

/-- Opens a block at a column that is further in than the innermost block. -/
def openBlock (l : Lexer) (column position : Nat) (t : Token) : Lexer :=
  if !l.inFlow && l.leastColumn ≤ column then
    { l.insert position t with indents := column :: l.indents }
  else l

/-- Closes the blocks of indentations given, the tokens of which are put before `tokens`. -/
def closeWhile (column : Option Nat) (tokens : List Token) : List Nat → List Token × List Nat
  | [] => (tokens, [])
  | n :: rest =>
    if column.all (· < n) then closeWhile column (.blockEnd :: tokens) rest
    else (tokens, n :: rest)

/-- Closes the blocks that are further in than a column, or all of them. -/
def closeBlocks (l : Lexer) (column : Option Nat) : Lexer :=
  if l.inFlow then l
  else
    let (tokens, indents) := closeWhile column l.tokens l.indents
    { l with tokens := tokens, indents := indents }

/-! ## Candidates -/

/-- Whether a candidate is too far back to be a key. -/
def Candidate.isStale (k : Candidate) (c : Cursor) : Bool :=
  k.line < c.line || k.column + 1024 < c.column

/-- Gives up the candidates that are too far back. None of them may be required. -/
def dropStale (l : Lexer) : Option Lexer := do
  let candidates ← l.candidates.mapM fun
    | some k =>
      if Candidate.isStale k l.cursor then if k.required then none else some none
      else some (some k)
    | none => some none
  return { l with candidates := candidates }

/-- Gives up the innermost candidate, which must not be required. -/
def dropCandidate (l : Lexer) : Option Lexer :=
  match l.candidates with
  | some k :: rest => if k.required then none else some { l with candidates := none :: rest }
  | _ => some l

/-- Keeps this place as a candidate, if a key may begin here. -/
def saveCandidate (l : Lexer) : Option Lexer :=
  if l.keyAllowed then do
    let k : Candidate :=
      { required := !l.inFlow && l.indents.head? == some l.cursor.column
        position := l.tokens.length
        line := l.cursor.line
        column := l.cursor.column }
    let l ← l.dropCandidate
    return { l with candidates := some k :: l.candidates.drop 1 }
  else some l

/-! ## Spaces and comments -/

/-- The place of the next token, and whether a key may begin there. Tabs are passed over where no
key may begin, and inside flow collections. -/
def toToken (inFlow : Bool) (allowed comment : Bool) (line column : Nat) :
    List Char → Cursor × Bool
  | [] => (⟨[], line, column⟩, allowed)
  | x :: xs =>
    if isBreak x then toToken inFlow (allowed || !inFlow) false (line + 1) 0 xs
    else if comment || x == ' ' || (x == '\t' && (inFlow || !allowed)) then
      toToken inFlow allowed comment line (column + 1) xs
    else if x == '#' then toToken inFlow allowed true line (column + 1) xs
    else (⟨x :: xs, line, column⟩, allowed)

/-- Passes over spaces and comments. -/
def skipBlank (l : Lexer) : Lexer :=
  let c := l.cursor
  let (c, allowed) := toToken l.inFlow l.keyAllowed false c.line c.column c.rest
  { l with cursor := c, keyAllowed := allowed }

/-! ## Tokens -/

/-- A token of `n` characters. -/
def mark (l : Lexer) (n : Nat) (t : Token) : Lexer := { l.emit t with cursor := l.cursor.skip n }

/-- A mark that begins or ends a document. -/
def documentMark (l : Lexer) (t : Token) : Option Lexer := do
  let l ← (l.closeBlocks none).dropCandidate
  return { l.mark 3 t with keyAllowed := false }

/-- The token of a directive. -/
def readDirective (l : Lexer) : Option Lexer := do
  let l ← (l.closeBlocks none).dropCandidate
  let (t, c) ← directive l.cursor
  return { l.emit t with cursor := c, keyAllowed := false }

/-- The bracket that opens a flow collection. -/
def openFlow (l : Lexer) (t : Token) : Option Lexer := do
  let l ← l.saveCandidate
  return { l.mark 1 t with candidates := none :: l.candidates, keyAllowed := true }

/-- The bracket that closes a flow collection. -/
def closeFlow (l : Lexer) (t : Token) : Option Lexer := do
  let l ← l.dropCandidate
  let candidates := if l.inFlow then l.candidates.drop 1 else l.candidates
  return { l.mark 1 t with candidates := candidates, keyAllowed := false }

/-- The comma of a flow collection. -/
def flowEntry (l : Lexer) : Option Lexer := do
  let l ← l.dropCandidate
  return { l.mark 1 .flowEntry with keyAllowed := true }

/-- A block that begins at a mark, where a key may begin. -/
def blockAtMark (l : Lexer) (t : Token) : Option Lexer :=
  if l.inFlow then some l
  else if l.keyAllowed then some (l.openBlock l.cursor.column l.tokens.length t)
  else none

/-- The dash before an item of a block sequence. -/
def blockEntry (l : Lexer) : Option Lexer := do
  let l ← l.blockAtMark .blockSequenceStart
  let l ← l.dropCandidate
  return { l.mark 1 .blockEntry with keyAllowed := true }

/-- The question mark before a key. -/
def keyMark (l : Lexer) : Option Lexer := do
  let l ← l.blockAtMark .blockMappingStart
  let l ← l.dropCandidate
  return { l.mark 1 .key with keyAllowed := !l.inFlow }

/-- The colon before a value. If there is a candidate it turns out to be the key. -/
def valueMark (l : Lexer) : Option Lexer :=
  match l.candidates with
  | some k :: rest =>
    let l := (l.insert k.position .key).openBlock k.column k.position .blockMappingStart
    some { l.mark 1 .value with candidates := none :: rest, keyAllowed := false }
  | _ => do
    let l ← l.blockAtMark .blockMappingStart
    return { l.mark 1 .value with keyAllowed := !l.inFlow }

/-- A token of a node that may be a key, read by `read`. -/
def nodeToken (l : Lexer) (read : Cursor → Option (Token × Cursor)) : Option Lexer := do
  let l ← l.saveCandidate
  let (t, c) ← read l.cursor
  return { l.emit t with cursor := c, keyAllowed := false }

/-- A quoted scalar. -/
def quoted (l : Lexer) (quote : Char) : Option Lexer :=
  l.nodeToken fun c =>
    (quotedScalar quote c).map fun (text, c) => (.scalar false (String.ofList text), c)

/-- A plain scalar. A key may begin after it if it ends after a line end. -/
def plain (l : Lexer) : Option Lexer := do
  let l ← l.saveCandidate
  let ((text, c), broken) ← plainScalar l.inFlow l.leastColumn l.cursor
  return { l.emit (.scalar true (String.ofList text)) with cursor := c, keyAllowed := broken }

/-- A block scalar. -/
def block (l : Lexer) (folded : Bool) : Option Lexer := do
  let l ← l.dropCandidate
  let (text, c) ← blockScalar folded l.leastColumn l.cursor
  return { l.emit (.scalar false (String.ofList text)) with cursor := c, keyAllowed := true }

/-- The characters that cannot begin a plain scalar, unless a word follows `-`, `?` or `:`. -/
def isIndicator (c : Char) : Bool := "-?:,[]\x7b\x7d#&*!|>'\"%@`".toList.contains c

/-- Whether a plain scalar begins with `x` before `xs`. -/
def beginsPlain (inFlow : Bool) (x : Char) (xs : List Char) : Bool :=
  (isInk x && !isIndicator x) || (x == '-' && !xs.head?.any isSpace) ||
    (!inFlow && (x == '?' || x == ':') && !endsWord xs)

/-- The token that begins with `x` before `xs`. -/
def readToken (l : Lexer) (x : Char) (xs : List Char) : Option Lexer :=
  let c := l.cursor
  if c.column == 0 && x == '%' then l.readDirective
  else if c.atMark '-' then l.documentMark .documentStart
  else if c.atMark '.' then l.documentMark .documentEnd
  else if x == '[' then l.openFlow .flowSequenceStart
  else if x == '\x7b' then l.openFlow .flowMappingStart
  else if x == ']' then l.closeFlow .flowSequenceEnd
  else if x == '\x7d' then l.closeFlow .flowMappingEnd
  else if x == ',' then l.flowEntry
  else if x == '-' && endsWord xs then l.blockEntry
  else if x == '?' && (l.inFlow || endsWord xs) then l.keyMark
  else if x == ':' && (l.inFlow || endsWord xs) then l.valueMark
  else if x == '*' then l.nodeToken fun c => (anchorName c).map fun (name, c) =>
    (.reference name, c)
  else if x == '&' then l.nodeToken fun c => (anchorName c).map fun (name, c) => (.anchor name, c)
  else if x == '!' then l.nodeToken (tagAt l.inFlow)
  else if x == '|' && !l.inFlow then l.block false
  else if x == '>' && !l.inFlow then l.block true
  else if x == '\'' || x == '"' then l.quoted x
  else if beginsPlain l.inFlow x xs then l.plain
  else none

/-- Reads the tokens from here on. -/
def run : (fuel : Nat) → Lexer → Option (List Token)
  | 0, _ => none
  | fuel + 1, l => do
    let l ← l.skipBlank.dropStale
    match l.cursor.rest with
    | [] => do
      let l ← (l.closeBlocks none).dropCandidate
      return l.tokens.reverse
    | x :: xs =>
      let l ← (l.closeBlocks (some l.cursor.column)).readToken x xs
      run fuel l

end Lexer

/-- The start of a text. A byte order mark there is passed over, but takes a column. -/
def afterMark : List Char → Cursor
  | '\ufeff' :: cs => ⟨cs, 0, 1⟩
  | cs => .start cs

/-- The tokens of a text, if it can be cut into tokens. -/
def Token.ofText? (text : String) : Option (List Token) :=
  let cs := text.toList
  if cs.all isAllowed then
    let c := afterMark (unifyBreaks cs)
    Lexer.run (c.rest.length + 1) { cursor := c }
  else none

end Dossier.Yaml
