import Dossier.Text.Blank
import Dossier.Text.Lines

/-!
# Frontmatter

A text with frontmatter begins with a fence, which is a line of three hyphens. What stands between
it and the next fence is the frontmatter, and what follows that fence is the body. Blanks at the
end of a fence do not count, and neither does a byte order mark at the start of the text.
-/

namespace Dossier

/-- A text in two parts. -/
structure Frontmatter where
  yaml : String
  body : String
  deriving DecidableEq, Repr

namespace Frontmatter

/-- Whether a line is a fence. -/
def isFence (line : List Char) : Bool := Text.dropBlanksEnd line == ['-', '-', '-']

/-- The lines before the first fence and those after it. -/
def splitAtFence : List (List Char) → Option (List (List Char) × List (List Char))
  | [] => none
  | line :: rest =>
    if isFence line then some ([], rest)
    else (splitAtFence rest).map fun (before, after) => (line :: before, after)

/-- The text of lines. -/
def ofLines (lines : List (List Char)) : String := String.ofList lines.flatten

/-- The frontmatter and the body of a text, if it begins with frontmatter. -/
def split? (text : String) : Option Frontmatter :=
  match Text.lines (· == '\n') (Text.dropMark text.toList) with
  | [] => none
  | first :: rest =>
    if isFence first then
      (splitAtFence rest).map fun (yaml, body) => ⟨ofLines yaml, ofLines body⟩
    else none

end Frontmatter

end Dossier
