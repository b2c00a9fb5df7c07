import Dossier.Json.Lexeme

/-!
# The grammar of JSON text

What JSON text is, said of characters alone: of how it is cut into lexemes, of values, and of what
is read before a fault it says nothing (`IsJson`). A number may be out of range, and an escape may
stand for half a character.
-/

namespace Dossier.Json.Grammar

/-- Blanks and nothing else. -/
def AreBlanks (cs : List Char) : Prop := ∀ c ∈ cs, isJsonBlank c = true

/-! ## Numbers -/

/-- Digits, at least one. -/
def AreDigits (cs : List Char) : Prop := cs ≠ [] ∧ ∀ c ∈ cs, c.isDigit = true

/-- The digits before the point. They begin with zero only if that is all. -/
inductive IsWhole : List Char → Prop
  | zero : IsWhole ['0']
  | digits {c : Char} {cs : List Char} (hc : c.isDigit = true) (hne : c ≠ '0')
    (hcs : ∀ d ∈ cs, d.isDigit = true) :
    IsWhole (c :: cs)

/-- A fraction, or nothing. -/
inductive IsFraction : List Char → Prop
  | none : IsFraction []
  | digits {cs : List Char} (hcs : AreDigits cs) : IsFraction ('.' :: cs)

/-- An exponent, or nothing. -/
inductive IsExponent : List Char → Prop
  | none : IsExponent []
  | digits {e : Char} {cs : List Char} (he : e = 'e' ∨ e = 'E') (hcs : AreDigits cs) :
      IsExponent (e :: cs)
  | signed {e sign : Char} {cs : List Char} (he : e = 'e' ∨ e = 'E')
    (hsign : sign = '+' ∨ sign = '-')
    (hcs : AreDigits cs) : IsExponent (e :: sign :: cs)

/-- A number. -/
inductive IsNumber : List Char → Prop
  | plain {whole fraction exponent : List Char} (hw : IsWhole whole) (hf : IsFraction fraction)
    (he : IsExponent exponent) : IsNumber (whole ++ (fraction ++ exponent))
  | negative {whole fraction exponent : List Char} (hw : IsWhole whole) (hf : IsFraction fraction)
    (he : IsExponent exponent) : IsNumber ('-' :: (whole ++ (fraction ++ exponent)))

/-! ## Strings -/

/-- A hexadecimal digit. -/
def IsHexDigit (c : Char) : Prop := c.isDigit = true ∨ ('a' ≤ c ∧ c ≤ 'f') ∨ ('A' ≤ c ∧ c ≤ 'F')

/-- The letters that may follow a backslash without a number. -/
def escapeLetters : List Char := ['"', '\\', '/', 'b', 'f', 'n', 'r', 't']

/-- A string after its first quote. -/
inductive IsStringTail : List Char → Prop
  | quote : IsStringTail ['"']
  | plain {c : Char} {cs : List Char} (hquote : c ≠ '"') (hescape : c ≠ '\\')
    (hcontrol : 0x20 ≤ c.toNat)
    (h : IsStringTail cs) : IsStringTail (c :: cs)
  | letter {c : Char} {cs : List Char} (hc : c ∈ escapeLetters) (h : IsStringTail cs) :
    IsStringTail ('\\' :: c :: cs)
  | number {a b c d : Char} {cs : List Char} (hdigits : ∀ x ∈ [a, b, c, d], IsHexDigit x)
    (h : IsStringTail cs) :
    IsStringTail ('\\' :: 'u' :: a :: b :: c :: d :: cs)

/-- A string. -/
inductive IsString : List Char → Prop
  | mk {cs : List Char} (h : IsStringTail cs) : IsString ('"' :: cs)

/-! ## Values -/

/-- The kinds of phrases. An element is a value with the blanks around it, and a member a key with
an element. -/
inductive Phrase where
  | value
  | element
  | elements
  | member
  | members

/-- The phrases of JSON text. -/
inductive IsPhrase : Phrase → List Char → Prop
  | null : IsPhrase .value ['n', 'u', 'l', 'l']
  | true : IsPhrase .value ['t', 'r', 'u', 'e']
  | false : IsPhrase .value ['f', 'a', 'l', 's', 'e']
  | number {cs : List Char} (h : IsNumber cs) : IsPhrase .value cs
  | string {cs : List Char} (h : IsString cs) : IsPhrase .value cs
  | emptyArray {ws : List Char} (hws : AreBlanks ws) : IsPhrase .value ('[' :: (ws ++ [']']))
  | array {cs : List Char} (h : IsPhrase .elements cs) : IsPhrase .value ('[' :: (cs ++ [']']))
  | emptyObject {ws : List Char} (hws : AreBlanks ws) :
      IsPhrase .value ('\x7b' :: (ws ++ ['\x7d']))
  | object {cs : List Char} (h : IsPhrase .members cs) :
      IsPhrase .value ('\x7b' :: (cs ++ ['\x7d']))
  | element {before cs after : List Char} (hbefore : AreBlanks before) (h : IsPhrase .value cs)
    (hafter : AreBlanks after) : IsPhrase .element (before ++ (cs ++ after))
  | lastElement {cs : List Char} (h : IsPhrase .element cs) : IsPhrase .elements cs
  | moreElements {cs ds : List Char} (h : IsPhrase .element cs) (hs : IsPhrase .elements ds) :
    IsPhrase .elements (cs ++ ',' :: ds)
  | member {before key after cs : List Char} (hbefore : AreBlanks before) (hkey : IsString key)
    (hafter : AreBlanks after) (h : IsPhrase .element cs) :
    IsPhrase .member (before ++ (key ++ (after ++ ':' :: cs)))
  | lastMember {cs : List Char} (h : IsPhrase .member cs) : IsPhrase .members cs
  | moreMembers {cs ds : List Char} (h : IsPhrase .member cs) (hs : IsPhrase .members ds) :
    IsPhrase .members (cs ++ ',' :: ds)

/-- A value may be followed by blanks wherever it stands in other phrases. -/
theorem IsPhrase.append_blanks {p : Phrase} {cs ws : List Char} (h : IsPhrase p cs)
    (hp : p ≠ .value) (hws : AreBlanks ws) : IsPhrase p (cs ++ ws) := by
  induction h with
  | element hbefore h hafter =>
    rw [List.append_assoc, List.append_assoc]
    exact .element hbefore h (List.forall_mem_append.2 ⟨hafter, hws⟩)
  | lastElement _ ih => exact .lastElement (ih nofun)
  | moreElements h _ _ ih =>
    rw [List.append_assoc]
    exact .moreElements h (ih nofun)
  | member hbefore hkey hafter _ ih =>
    rw [List.append_assoc, List.append_assoc, List.append_assoc]
    exact .member hbefore hkey hafter (ih nofun)
  | lastMember _ ih => exact .lastMember (ih nofun)
  | moreMembers h _ _ ih =>
    rw [List.append_assoc]
    exact .moreMembers h (ih nofun)
  | _ => exact absurd rfl hp

end Grammar

/-- JSON text: a value, with blanks around it. -/
def IsJson (text : String) : Prop := Grammar.IsPhrase .element text.toList

end Dossier.Json
