/-!
# Lines

A text is cut into lines after each line end. Only the last line may lack its line end, and it is
not empty. The items of a text may be characters or bytes.
-/

namespace Dossier.Text

/-- The lines of a text whose reading is inside a line that begins with `line`, which is kept
reversed. -/
def linesAfter {α : Type} (isEnd : α → Bool) (line : List α) : List α → List (List α)
  | [] => if line.isEmpty then [] else [line.reverse]
  | a :: rest =>
    if isEnd a then (a :: line).reverse :: linesAfter isEnd [] rest
    else linesAfter isEnd (a :: line) rest

/-- The lines of a text, each with the line end that closes it. -/
def lines {α : Type} (isEnd : α → Bool) (text : List α) : List (List α) := linesAfter isEnd [] text

/-- The lines of a text given as bytes. -/
def byteLines (bytes : List UInt8) : List (List UInt8) := lines (· == 10) bytes

end Dossier.Text
