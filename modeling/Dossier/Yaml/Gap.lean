import Dossier.Yaml.Cursor

/-!
# Gaps in scalars

The spaces and line ends between two words of a scalar form a gap. On one line a gap stands for
itself. A gap over line ends is folded: one line end becomes a space, and of several the first is
dropped. Separators of lines and paragraphs are never folded.
-/

namespace Dossier.Yaml

/-- A gap as far as it is read: its spaces before the first line end, that line end, and those
after it, the last ones first. A gap may count as broken although it has no first line end. -/
structure Gap where
  spaces : List Char := []
  broken : Bool := false
  first : Option Char := none
  others : List Char := []

namespace Gap

/-- The gap with one more line end. -/
def addBreak (g : Gap) (x : Char) : Gap :=
  if g.broken then { g with others := x :: g.others }
  else { g with broken := true, first := some x }

/-- The gap with one more space, which counts only before the first line end. -/
def addSpace (g : Gap) (x : Char) : Gap :=
  if g.broken then g else { g with spaces := x :: g.spaces }

/-- What a gap stands for. -/
def text (g : Gap) : List Char :=
  if !g.broken then g.spaces.reverse
  else
    match g.first with
    | none => g.others.reverse
    | some '\n' => if g.others.isEmpty then [' '] else g.others.reverse
    | some x => x :: g.others.reverse

/-- Reads a gap to its end. No tab may stand before column `least` of a line after the first. -/
def read (least : Nat) (g : Gap) (line column : Nat) : List Char → Option (Gap × Cursor)
  | [] => some (g, ⟨[], line, column⟩)
  | x :: xs =>
    if isBreak x then read least (g.addBreak x) (line + 1) 0 xs
    else if isSpace x then
      if g.broken && x == '\t' && column < least then none
      else read least (g.addSpace x) line (column + 1) xs
    else some (g, ⟨x :: xs, line, column⟩)

/-- The gap at a place. -/
def at? (least : Nat) (g : Gap) (c : Cursor) : Option (Gap × Cursor) :=
  g.read least c.line c.column c.rest

end Gap

end Dossier.Yaml
