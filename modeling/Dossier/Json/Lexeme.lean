import Dossier.Json.Number
import Dossier.Text.Radix
import Dossier.Text.Rest

/-!
# The lexemes of JSON text

`lexemes` cuts a text into brackets, separators, words, numbers and strings. A string or number
that is well delimited may still have no value. Where the text cannot be cut further the last
lexeme is `broken`, or `brokenString` if it begins with a quote.

A part of a text may be passed over instead of being read. That forgives some faults and names
others differently, so a fault is kept as a pair (`Stop`).
-/

namespace Dossier.Json

open Dossier.Text (Tail)

/-- A fault that ends the reading of a text: what it is called where the text is read, and where it
is only passed over. -/
structure Stop where
  onRead : SyntaxError
  onSkip : SyntaxError
  deriving DecidableEq, Repr

/-- A fault with one name. -/
def Stop.of (e : SyntaxError) : Stop := ⟨e, e⟩

/-- A piece of JSON text. -/
inductive Lexeme where
  | openArray
  | closeArray
  | openObject
  | closeObject
  | comma
  | colon
  | null
  | bool (b : Bool)
  | number (n : Except SyntaxError Value)
  | string (s : Except SyntaxError String)
  | broken (stop : Stop)
  | brokenString (stop : Stop)
  | other

/-! ## Numbers -/

/-- The digits at the front of a text, and what follows them. -/
def spanDigits (cs : List Char) : List Char × Tail cs :=
  match cs with
  | [] => ([], .all _)
  | c :: cs =>
    if c.isDigit then
      let (digits, tail) := spanDigits cs
      (c :: digits, tail.cons c)
    else ([], .all _)

/-- The fault of a number that lacks a digit before `rest`. -/
def missingDigit (rest : List Char) : Stop :=
  if rest.isEmpty then ⟨.endInValue, .invalidNumber⟩ else .of .invalidNumber

/-- The fraction of a number at the front of `cs`, if one begins there. -/
def readFraction (cs : List Char) : Except Stop (Option (List Char) × Tail cs) :=
  match cs with
  | '.' :: cs =>
    let (digits, tail) := spanDigits cs
    if digits.isEmpty then .error (missingDigit tail) else .ok (some digits, tail.cons '.')
  | cs => .ok (none, .all cs)

/-- The digits of an exponent of known sign. -/
def readExponentDigits (down : Bool) (cs : List Char) :
    Except Stop ((Bool × List Char) × Tail cs) :=
  let (digits, tail) := spanDigits cs
  if digits.isEmpty then .error (missingDigit tail) else .ok ((down, digits), tail)

/-- What follows the letter of an exponent. -/
def readSignedExponent (cs : List Char) : Except Stop ((Bool × List Char) × Tail cs) :=
  match cs with
  | '-' :: cs => (readExponentDigits true cs).map fun (e, tail) => (e, tail.cons '-')
  | '+' :: cs => (readExponentDigits false cs).map fun (e, tail) => (e, tail.cons '+')
  | cs => readExponentDigits false cs

/-- The exponent of a number at the front of `cs`, if one begins there. -/
def readExponent (cs : List Char) : Except Stop (Option (Bool × List Char) × Tail cs) :=
  match cs with
  | [] => .ok (none, .all _)
  | c :: cs =>
    if c == 'e' || c == 'E' then
      (readSignedExponent cs).map fun (e, tail) => (some e, tail.cons c)
    else .ok (none, .all _)

/-- A number whose first digit `c` is followed by `cs`. -/
def readNumber (negative : Bool) (c : Char) (cs : List Char) : Except Stop (Lexeme × Tail cs) := do
  let (more, tail) := spanDigits cs
  if c == '0' && !more.isEmpty then throw (.of .invalidNumber)
  let (fraction, tail₁) ← readFraction tail.val
  let (exponent, tail₂) ← readExponent tail₁.val
  let spelling : Spelling := ⟨negative, c :: more, fraction, exponent⟩
  return (.number spelling.number, tail.trans (tail₁.trans tail₂))

/-! ## Strings -/

/-- The number that four hexadecimal digits at the front of a text write. A text of less than four
bytes has ended inside them. -/
def readHex (cs : List Char) : Except SyntaxError (Nat × Tail cs) :=
  match cs with
  | a :: b :: c :: d :: rest =>
    match Text.hexValue? a, Text.hexValue? b, Text.hexValue? c, Text.hexValue? d with
    | some p, some q, some r, some s =>
      .ok (((p * 16 + q) * 16 + r) * 16 + s,
        ((((Tail.all rest).cons d).cons c).cons b).cons a)
    | _, _, _, _ => .error .invalidEscape
  | cs => .error (if (String.ofList cs).utf8ByteSize < 4 then .endInString else .invalidEscape)

/-- The character that a one-letter escape stands for. -/
def escapeLetter? : Char → Option Char
  | '"' => some '"'
  | '\\' => some '\\'
  | '/' => some '/'
  | 'b' => some '\x08'
  | 'f' => some '\x0c'
  | 'n' => some '\n'
  | 'r' => some '\r'
  | 't' => some '\t'
  | _ => none

/-- The second half of a surrogate pair whose first half is `high`, read after it. -/
def readLowSurrogate (high : Nat) (cs : List Char) : Except SyntaxError (Char × Tail cs) :=
  match cs with
  | '\\' :: 'u' :: tail => do
    let (low, rest) ← readHex tail
    if 0xdc00 ≤ low && low ≤ 0xdfff then
      return (Char.ofNat (0x10000 + (high - 0xd800) * 0x400 + (low - 0xdc00)),
        (rest.cons 'u').cons '\\')
    else throw .loneSurrogate
  | [] | ['\\'] => throw .endInString
  | _ => throw .endOfHexEscape

/-- An escape after its backslash. It may stand for no character although the text after it can be
read. -/
def readEscape (cs : List Char) : Except SyntaxError (Except SyntaxError Char × Tail cs) :=
  match cs with
  | [] => .error .endInString
  | c :: cs =>
    if c == 'u' then do
      let (n, tail) ← readHex cs
      if 0xdc00 ≤ n && n ≤ 0xdfff then return (.error .loneSurrogate, tail.cons c)
      if n < 0xd800 || 0xdbff < n then return (.ok (Char.ofNat n), tail.cons c)
      match readLowSurrogate n tail.val with
      | .ok (x, rest) => return (.ok x, (tail.trans rest).cons c)
      | .error e => return (.error e, tail.cons c)
    else
      match escapeLetter? c with
      | some x => .ok (.ok x, (Tail.all cs).cons c)
      | none => .error .invalidEscape

/-- The rest of a string whose characters `done`, kept reversed, are read already. The first escape
that stands for no character takes the place of the value. -/
def readString (done : Except SyntaxError (List Char)) (cs : List Char) :
    Except Stop (Except SyntaxError String × Tail cs) :=
  let stop (e : SyntaxError) : Stop := ⟨match done with | .ok _ => e | .error first => first, e⟩
  match cs with
  | [] => .error (stop .endInString)
  | c :: rest =>
    if c == '"' then .ok (done.map fun cs => String.ofList cs.reverse, (Tail.all rest).cons c)
    else if c == '\\' then
      match readEscape rest with
      | .error e => .error (stop e)
      | .ok (x, tail) =>
        match readString (do let cs ← done; return (← x) :: cs) tail.val with
        | .error e => .error e
        | .ok (s, u) => .ok (s, (tail.trans u).cons c)
    else if c.toNat < 0x20 then .error (stop .controlCharacter)
    else
      match readString (done.map (c :: ·)) rest with
      | .error e => .error e
      | .ok (s, u) => .ok (s, u.cons c)
termination_by cs.length
decreasing_by
  · have := tail.property
    simp only [List.length_cons]
    omega
  · simp only [List.length_cons]
    omega

/-! ## Lexemes -/

/-- The letters of a word that is expected at the front of `cs`. -/
def readWord (word : List Char) (cs : List Char) : Except Stop (Tail cs) :=
  match word, cs with
  | [], cs => .ok (.all cs)
  | _ :: _, [] => .error (.of .endInValue)
  | w :: word, c :: cs =>
    if w == c then (readWord word cs).map (Tail.cons c) else .error (.of .expectedIdent)

/-- The blanks of JSON text. -/
def isJsonBlank (c : Char) : Bool := c == ' ' || c == '\n' || c == '\t' || c == '\r'

/-- The lexeme that begins with the character `c` and goes on in `cs`. -/
def readLexeme (c : Char) (cs : List Char) : Except Stop (Lexeme × Tail cs) :=
  match c with
  | '[' => .ok (.openArray, .all cs)
  | ']' => .ok (.closeArray, .all cs)
  | '\x7b' => .ok (.openObject, .all cs)
  | '\x7d' => .ok (.closeObject, .all cs)
  | ',' => .ok (.comma, .all cs)
  | ':' => .ok (.colon, .all cs)
  | 'n' => (readWord ['u', 'l', 'l'] cs).map (Lexeme.null, ·)
  | 't' => (readWord ['r', 'u', 'e'] cs).map (Lexeme.bool true, ·)
  | 'f' => (readWord ['a', 'l', 's', 'e'] cs).map (Lexeme.bool false, ·)
  | '"' => (readString (.ok []) cs).map fun (s, tail) => (.string s, tail)
  | '-' =>
    match cs with
    | [] => .error (missingDigit [])
    | d :: ds =>
      if d.isDigit then (readNumber true d ds).map fun (n, tail) => (n, tail.cons d)
      else .error (.of .invalidNumber)
  | c => if c.isDigit then readNumber false c cs else .ok (.other, .all cs)

/-- The lexemes of a text. -/
def lexemes (cs : List Char) : List Lexeme :=
  match cs with
  | [] => []
  | c :: cs =>
    if isJsonBlank c then lexemes cs
    else
      match readLexeme c cs with
      | .error stop => [if c == '"' then .brokenString stop else .broken stop]
      | .ok (lexeme, tail) => lexeme :: lexemes tail.val
termination_by cs.length
decreasing_by
  · simp only [List.length_cons]
    omega
  · have := tail.property
    simp only [List.length_cons]
    omega

end Dossier.Json
