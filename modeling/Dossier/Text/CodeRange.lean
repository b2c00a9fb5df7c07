/-!
# Ranges of code points

A property of characters that a standard defines by enumeration is a table of ranges, in ascending
order. All tables are those of Unicode 16.0.
-/

namespace Dossier.Text

/-- The code points from `first` to `last`, both included. -/
structure CodeRange where
  first : Nat
  last : Nat

/-- Whether the code point `n` lies in the range. -/
def CodeRange.contains (r : CodeRange) (n : Nat) : Bool := r.first ≤ n && n ≤ r.last

/-- Whether `c` lies in one of the ranges of a table. -/
def inRanges (table : List CodeRange) (c : Char) : Bool := table.any (·.contains c.toNat)

end Dossier.Text
