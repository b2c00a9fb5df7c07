/-!
# Conformance levels

How far a collection has come, by the number of its documents.
-/

namespace Dossier

/-- A conformance level. -/
inductive Conformance where
  | bronze
  | silver
  | gold
  deriving DecidableEq, Repr

namespace Conformance

/-- The level of a collection of a given size. -/
def ofSize (n : Nat) : Conformance := if n < 25 then bronze else if n < 45 then silver else gold

/-- The name of a level. -/
def name : Conformance → String
  | bronze => "bronze"
  | silver => "silver"
  | gold => "gold"

end Conformance

end Dossier
