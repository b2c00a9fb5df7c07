/-!
# Powers of two and ten
-/

namespace Dossier.Decimal

/-- The power of two of a given exponent. -/
def twoTo (exponent : Nat) : Nat := Nat.pow 2 exponent

/-- The power of ten of a given exponent. -/
def tenTo (exponent : Nat) : Nat := Nat.pow 10 exponent

/-- The number of words of 64 bits. -/
def wordCount : Nat := twoTo 64

/-- The number of those words of 64 bits that have no sign bit. -/
def positiveCount : Nat := twoTo 63

end Dossier.Decimal
