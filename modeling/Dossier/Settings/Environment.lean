import Dossier.Text.Blank
import Dossier.Text.Letter
import Dossier.Text.Lines
import Dossier.Text.Utf8

/-!
# Environment files

An environment file assigns values to variables, one on each line. A value may be quoted, and may
refer to other variables. Reading stops before the first line that is not understood, and a
variable that has a value keeps it.
-/

namespace Dossier.Environment

/-! ## Values -/

/-- A piece of a value: a character, or a reference to a variable, whose value stands in its
place. -/
inductive Piece where
  | char (c : Char)
  | reference (name : String)
  deriving DecidableEq, Repr

/-- Where a place in a value is, as to quotes. -/
inductive Quote where
  | none
  | single
  | double
  deriving DecidableEq, Repr

/-- What the next character of a value belongs to: the value itself, an escape, the name of a
variable, such a name between braces, or the blanks after the value. Names are kept reversed. -/
inductive Part where
  | value
  | escape
  | name (cs : List Char)
  | braced (cs : List Char)
  | ended
  deriving DecidableEq, Repr

/-- A value as far as it is read, its pieces in reverse order. -/
structure Scan where
  pieces : List Piece := []
  quote : Quote := .none
  part : Part := .value

namespace Scan

/-- The value with one more character. -/
def push (s : Scan) (c : Char) : Scan := { s with pieces := .char c :: s.pieces, part := .value }

/-- The value with one more variable, whose name is given reversed. -/
def pushName (s : Scan) (cs : List Char) : Scan :=
  { s with pieces := .reference (String.ofList cs.reverse) :: s.pieces, part := .value }

/-- The place after a quote. -/
def turn (s : Scan) (q : Quote) : Scan := { s with quote := q }

/-- The place at which something else begins. -/
def enter (s : Scan) (p : Part) : Scan := { s with part := p }

/-- The character that an escape stands for. -/
def escaped? (c : Char) : Option Char :=
  if c == 'n' then some '\n' else if "\\'\"$ ".toList.contains c then some c else none

/-- Reads a character of the value itself. -/
def readPlain (s : Scan) (c : Char) : Scan :=
  match s.quote, c with
  | .single, '\'' => s.turn .none
  | .single, c => s.push c
  | _, '$' => s.enter (.name [])
  | _, '\\' => s.enter .escape
  | .double, '"' => s.turn .none
  | .double, c => s.push c
  | .none, '\'' => s.turn .single
  | .none, '"' => s.turn .double
  | .none, c => if c == ' ' || c == '\t' then s.enter .ended else s.push c

/-- Reads one character. Nothing but blanks may follow the value. -/
def read (s : Scan) (c : Char) : Option Scan :=
  match s.part with
  | .value => some (s.readPlain c)
  | .escape => (escaped? c).map s.push
  | .name cs =>
    if Text.isAlphanumeric c then some (s.enter (.name (c :: cs)))
    else if c == '\x7b' && cs.isEmpty then some (s.enter (.braced []))
    else if c == '$' then some ((s.pushName cs).enter (.name []))
    else some ((s.pushName cs).push c)
  | .braced cs => some (if c == '\x7d' then s.pushName cs else s.enter (.braced (c :: cs)))
  | .ended => if c == ' ' || c == '\t' then some s else none

/-- The pieces of a value that ends here, unless a quote or brace is still open. -/
def finish (s : Scan) : Option (List Piece) :=
  match s.quote, s.part with
  | .none, .braced _ => none
  | .none, .name cs => some (s.pushName cs).pieces.reverse
  | .none, _ => some s.pieces.reverse
  | _, _ => none

/-- Reads characters up to the end of the value or to a comment after it. -/
def readAll (s : Scan) : List Char → Option (List Piece)
  | [] => s.finish
  | c :: cs =>
    if s.part == .ended && c == '#' then s.finish
    else
      match s.read c with
      | some s => s.readAll cs
      | none => none

end Scan

/-! ## Lines -/

/-- A line that assigns a value to a variable. -/
structure Assignment where
  name : String
  pieces : List Piece
  deriving DecidableEq, Repr

/-- A name at the front of a text, and what follows it and the blanks after it. -/
def readName (cs : List Char) : Option (List Char × List Char) :=
  if cs.head?.any fun c => c.isAlpha || c == '_' then
    let name := cs.takeWhile fun c => c.isAlphanum || c == '_' || c == '.'
    some (name, Text.dropBlanks (cs.drop name.length))
  else none

/-- What follows an equals sign and the blanks after it. -/
def readEquals : List Char → Option (List Char)
  | '=' :: cs => some (Text.dropBlanks cs)
  | _ => none

/-- The name that a line assigns to, and what follows the equals sign. The word `export` may stand
before it. -/
def readTarget (cs : List Char) : Option (List Char × List Char) := do
  let (name, rest) ← readName cs
  match readEquals rest with
  | some value => return (name, value)
  | none =>
    if name != "export".toList then none
    let (name, rest) ← readName rest
    return (name, ← readEquals rest)

/-- Whether nothing but a comment is left of a line. -/
def isDone (cs : List Char) : Bool := cs.isEmpty || cs.head? == some '#'

/-- What a line assigns, which may be nothing. -/
def readLine (line : List Char) : Option (Option Assignment) :=
  let cs := Text.dropBlanks (Text.dropBlanksEnd line)
  if isDone cs then some none
  else do
    let (name, value) ← readTarget cs
    let pieces ← if isDone value then some [] else Scan.readAll {} value
    return some ⟨String.ofList name, pieces⟩

/-- The assignments of a file, in order. -/
def assignments (lines : List (List UInt8)) : List Assignment :=
  match lines with
  | [] => []
  | line :: rest =>
    match Text.decodeUtf8 line with
    | .error _ => []
    | .ok text =>
      match readLine text.toList with
      | none => []
      | some a => a.toList ++ assignments rest

/-! ## Variables -/

/-- The variables with values, those from outside and those that a file has assigned. -/
structure Variables (m : Type → Type) where
  outside : String → m (Option String)
  assigned : List (String × String) := []

namespace Variables

variable {m : Type → Type} [Monad m]

/-- The value of a variable. -/
def get? (vs : Variables m) (name : String) : m (Option String) := do
  match ← vs.outside name with
  | some value => return some value
  | none => return vs.assigned.lookup name

/-- The text of a piece. -/
def expand (vs : Variables m) : Piece → m String
  | .char c => return c.toString
  | .reference name => do return (← vs.get? name).getD ""

/-- Makes assignments one after another. -/
def assign (vs : Variables m) : List Assignment → m (Variables m)
  | [] => return vs
  | a :: rest => do
    let value := String.join (← a.pieces.mapM vs.expand)
    match ← vs.get? a.name with
    | some _ => vs.assign rest
    | none => ({ vs with assigned := (a.name, value) :: vs.assigned }).assign rest

/-- Makes the assignments of a file. -/
def load (vs : Variables m) (content : List UInt8) : m (Variables m) :=
  vs.assign (assignments (Text.byteLines content))

end Variables

end Dossier.Environment
