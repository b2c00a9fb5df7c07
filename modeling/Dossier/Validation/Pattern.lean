import Dossier.Text.Blank
import Dossier.Text.Digit
import Dossier.Text.Letter

/-!
# Patterns of ids, versions and placeholders

The forms of text that validation looks for.
-/

namespace Dossier.Validation

/-- The letters `A` to `Z`. -/
def isCapital (c : Char) : Bool := 'A' ≤ c && c ≤ 'Z'

/-- The characters of a name in small letters with hyphens. -/
def isKebab (c : Char) : Bool := ('a' ≤ c && c ≤ 'z') || ('0' ≤ c && c ≤ '9') || c == '-'

/-- Three capitals, a hyphen and a name in small letters. -/
def isDocumentId (id : String) : Bool :=
  match id.toList with
  | a :: b :: c :: '-' :: name =>
    isCapital a && isCapital b && isCapital c && !name.isEmpty && name.all isKebab
  | _ => false

/-- The part of an id before its first hyphen. -/
def idType (id : String) : String := String.ofList (id.toList.takeWhile (· != '-'))

/-- A run of digits at the front of a text, which must not be empty, and what follows it. -/
def dropDigits (cs : List Char) : Option (List Char) :=
  if (cs.takeWhile Text.isDigit).isEmpty then none else some (cs.dropWhile Text.isDigit)

/-- What follows a point at the front of a text. -/
def dropPoint : List Char → Option (List Char)
  | '.' :: cs => some cs
  | _ => none

/-- Three numbers with points between them, in digits of any script. -/
def isVersion (version : String) : Bool :=
  (do
    let cs ← dropDigits version.toList
    let cs ← dropDigits (← dropPoint cs)
    dropDigits (← dropPoint cs)) == some []

/-- The letter that stands for all forms of a letter. The long s is a form of s. -/
def foldLetter (c : Char) : Char := if c == 'ſ' then 's' else c.toLower

/-- What follows a word at the front of a text, letter case aside. The word is in small letters. -/
def dropFolded : (word cs : List Char) → Option (List Char)
  | [], cs => some cs
  | _ :: _, [] => none
  | w :: word, c :: cs => if w == foldLetter c then dropFolded word cs else none

/-- Whether blanks, a word and a closing bracket stand at the front of a text. -/
def startsInsertion (cs : List Char) : Bool :=
  let word := cs.dropWhile Text.isBlank
  let rest := word.dropWhile Text.isWordChar
  (cs.head?.any Text.isBlank) && (word.head?.any Text.isWordChar) && rest.head? == some ']'

/-- Whether a placeholder stands at the front of a text. -/
def startsPlaceholder (cs : List Char) : Bool :=
  (dropFolded "todo".toList cs).isSome || (dropFolded "tbd".toList cs).isSome ||
    (dropFolded "[placeholder]".toList cs).isSome ||
    (dropFolded "[insert".toList cs).any startsInsertion

/-- Whether a placeholder stands anywhere in a text. -/
def holdsPlaceholder : List Char → Bool
  | [] => false
  | c :: cs => startsPlaceholder (c :: cs) || holdsPlaceholder cs

/-- Whether a placeholder stands anywhere in a string. -/
def hasPlaceholder (text : String) : Bool := holdsPlaceholder text.toList

end Dossier.Validation
