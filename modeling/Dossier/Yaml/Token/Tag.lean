import Dossier.Text.Radix
import Dossier.Text.Utf8
import Dossier.Yaml.Cursor
import Dossier.Yaml.Token.Basic

/-!
# Tags, anchors and directives
-/

namespace Dossier.Yaml

/-! ## Tags -/

/-- The characters that stand for themselves in a tag. -/
def isUriChar (c : Char) : Bool := isNameChar c || ";/?:@&=+$.!~*'()".toList.contains c

/-- The byte that a percent sign and two hexadecimal digits write, at the front of a text. -/
def percentByte? : List Char → Option UInt8
  | '%' :: a :: b :: _ => do return UInt8.ofNat (16 * (← Text.hexValue? a) + (← Text.hexValue? b))
  | _ => none

/-- The bytes that percent signs at the front of a text write. -/
def percentBytes : (fuel : Nat) → List Char → List UInt8
  | 0, _ => []
  | fuel + 1, cs =>
    match percentByte? cs with
    | some b => b :: percentBytes fuel (cs.drop 3)
    | none => []

/-- A part of a tag at the front of a text, and the number of characters that it takes. Inside
angle brackets, commas and square brackets may stand in it. -/
def uriPart (bracketed : Bool) : (fuel : Nat) → List Char → Option (List Char × Nat)
  | 0, _ => none
  | _ + 1, [] => some ([], 0)
  | fuel + 1, x :: xs =>
    if x == '%' then do
      let bytes := percentBytes (xs.length + 1) (x :: xs)
      if bytes.isEmpty then none
      let text ← (Text.decodeUtf8 bytes).toOption
      let (rest, n) ← uriPart bracketed fuel ((x :: xs).drop (3 * bytes.length))
      return (text.toList ++ rest, n + 3 * bytes.length)
    else if isUriChar x || (bracketed && [',', '[', ']'].contains x) then
      (uriPart bracketed fuel xs).map fun (rest, n) => (x :: rest, n + 1)
    else some ([], 0)

/-- A part of a tag at a place, and the place after it. -/
def uriAt (bracketed : Bool) (c : Cursor) : Option (List Char × Cursor) :=
  (uriPart bracketed (c.rest.length + 1) c.rest).map fun (text, n) => (text, c.skip n)

/-- A handle at a place: an exclamation mark, and possibly a name and a second one. -/
def tagHandle (c : Cursor) : Option (List Char × Cursor) :=
  match c.rest with
  | '!' :: _ =>
    let (name, c) := (c.skip 1).span isNameChar
    if c.rest.head? == some '!' then some ('!' :: name ++ ['!'], c.skip 1)
    else some ('!' :: name, c)
  | _ => none

/-- A tag between angle brackets. -/
def bracketedTag (c : Cursor) : Option (Token × Cursor) := do
  let (suffix, c) ← uriAt true (c.skip 2)
  if suffix.isEmpty || c.rest.head? != some '>' then none
  return (.tag "" (String.ofList suffix), c.skip 1)

/-- A tag that begins with a handle. A handle that is not closed is the start of a tag without
handle. -/
def handledTag (c : Cursor) : Option (Token × Cursor) := do
  let (handle, c) ← tagHandle c
  let (suffix, c) ← uriAt false c
  if handle.length ≥ 2 && handle.getLast? == some '!' then
    if suffix.isEmpty then none
    return (.tag (String.ofList handle) (String.ofList suffix), c)
  else
    let suffix := handle.drop 1 ++ suffix
    if suffix.isEmpty then return (.tag "" "!", c)
    return (.tag "!" (String.ofList suffix), c)

/-- A tag at a place, which ends as a word does or, inside a flow collection, before a comma. -/
def tagAt (inFlow : Bool) (c : Cursor) : Option (Token × Cursor) := do
  let (token, c) ← if c.rest[1]? == some '<' then bracketedTag c else handledTag c
  if endsWord c.rest || (inFlow && c.rest.head? == some ',') then return (token, c) else none

/-! ## Anchors -/

/-- The name after the mark of an anchor or alias, which is not empty. -/
def anchorName (c : Cursor) : Option (String × Cursor) :=
  let (name, c) := (c.skip 1).span isNameChar
  if !name.isEmpty && (endsWord c.rest || c.rest.head?.any "?:,]\x7d%@`".toList.contains) then
    some (String.ofList name, c)
  else none

/-! ## Directives -/

/-- A number of at most nine digits. -/
def versionNumber (c : Cursor) : Option (Nat × Cursor) :=
  let (digits, c) := c.span Char.isDigit
  if digits.isEmpty || digits.length > 9 then none
  else some (Text.ofDigits digits, c)

/-- The numbers of a directive that names a version. -/
def versionDirective (c : Cursor) : Option (Token × Cursor) := do
  let (major, c) ← versionNumber c.skipSpaces
  if c.rest.head? != some '.' then none
  let (minor, c) ← versionNumber (c.skip 1)
  return (.versionDirective major minor, c)

/-- The handle of a directive that defines one. It is closed, or the exclamation mark by itself. -/
def definedHandle (c : Cursor) : Option (String × Cursor) := do
  let (handle, c) ← tagHandle c
  if handle == ['!'] || (handle.length ≥ 2 && handle.getLast? == some '!') then
    return (String.ofList handle, c)
  else none

/-- The handle and the start of tags of a directive that defines a handle. -/
def tagDirective (c : Cursor) : Option (Token × Cursor) := do
  let (handle, c) ← definedHandle c.skipSpaces
  if !c.rest.head?.any isSpace then none
  let (start, c) ← uriAt true c.skipSpaces
  if start.isEmpty || !endsWord c.rest then none
  return (.tagDirective handle (String.ofList start), c)

/-- A directive at a place, and the place after its line. -/
def directive (c : Cursor) : Option (Token × Cursor) := do
  let (name, c) := (c.skip 1).span isNameChar
  if !endsWord c.rest then none
  let (token, c) ←
    match String.ofList name with
    | "YAML" => versionDirective c
    | "TAG" => tagDirective c
    | _ => none
  return (token, ← c.skipComment?)

end Dossier.Yaml
