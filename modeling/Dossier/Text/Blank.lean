/-!
# Blank characters

The characters that separate words are those with Unicode's `White_Space` property. Trimming takes
them off the ends of a text, and `words` cuts a text at them. The rules are stated on lists of
characters, with a form on strings beside each.
-/

namespace Dossier.Text

/-- Unicode's `White_Space` property. -/
def isBlank (c : Char) : Bool :=
  c == ' ' || (0x09 ≤ c.toNat && c.toNat ≤ 0x0d) || c == '\u0085' || c == '\u00a0' ||
    c == '\u1680' || (0x2000 ≤ c.toNat && c.toNat ≤ 0x200a) || c == '\u2028' || c == '\u2029' ||
    c == '\u202f' || c == '\u205f' || c == '\u3000'

/-! ## Trimming -/

/-- The text without the blanks it starts with. -/
def dropBlanks (cs : List Char) : List Char := cs.dropWhile isBlank

/-- The text without the blanks it ends with. -/
def dropBlanksEnd (cs : List Char) : List Char := (cs.reverse.dropWhile isBlank).reverse

/-- The text without blanks at either end. -/
def trimChars (cs : List Char) : List Char := dropBlanksEnd (dropBlanks cs)

/-- The string without blanks at either end. -/
def trim (s : String) : String := String.ofList (trimChars s.toList)

/-- The text without a byte order mark at its start. -/
def dropMark : List Char → List Char
  | '\ufeff' :: cs => cs
  | cs => cs

/-- Whether nothing but blanks is left of the string. -/
def isAllBlank (s : String) : Bool := s.toList.all isBlank

/-! ## Words -/

/-- The words of a text whose reading is inside the word `current`, which is kept reversed. -/
def wordsAfter (current : List Char) : List Char → List (List Char)
  | [] => if current.isEmpty then [] else [current.reverse]
  | c :: cs =>
    if isBlank c then
      if current.isEmpty then wordsAfter [] cs else current.reverse :: wordsAfter [] cs
    else wordsAfter (c :: current) cs

/-- The longest runs of characters that are not blank, in order. -/
def words (s : String) : List String := (wordsAfter [] s.toList).map String.ofList

/-! ## Occurrence -/

/-- Whether `needle` stands somewhere in the text. -/
def occursIn (needle : List Char) : List Char → Bool
  | [] => needle.isEmpty
  | c :: cs => needle.isPrefixOf (c :: cs) || occursIn needle cs

/-- Whether the string `needle` stands somewhere in `hay`. -/
def contains (hay needle : String) : Bool := occursIn needle.toList hay.toList

end Dossier.Text
