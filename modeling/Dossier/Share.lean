/-!
# Shares

A share is a part of a whole, both counted. It is kept as two numbers, compared exactly, and
becomes a double only where it is shown.
-/

namespace Dossier

/-- The sum of numbers. -/
def total (ns : List Nat) : Nat := ns.foldl (· + ·) 0

/-- A part of a whole. -/
structure Share where
  part : Nat
  whole : Nat
  deriving DecidableEq, Repr

namespace Share

/-- Whether the share is greater than `num / den`. -/
def exceeds (s : Share) (num den : Nat) : Bool := num * s.whole < den * s.part

/-- The share of at most all, for a part that may be greater than the whole. -/
def atMostAll (part whole : Nat) : Share := ⟨min part whole, whole⟩

/-- The quotient. Of nothing there is no share. -/
def toFloat (s : Share) : Float :=
  if s.whole == 0 then 0.0 else Float.ofNat s.part / Float.ofNat s.whole

end Share

end Dossier
