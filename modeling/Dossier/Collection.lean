import Dossier.Taxonomy.Canonical

/-!
# Collections

A collection keeps documents in the order in which they were given. Two documents may have one id;
a look-up by id then finds the first of them.
-/

namespace Dossier

/-- Documents, and the position at which each id occurs first. -/
structure Collection where
  documents : List Document
  positions : List (String × Nat)
  /-- The ids that occur more than once, in ascending order. -/
  duplicateIds : List String

namespace Collection

/-- Ids and their first positions among documents, and the ids that come again. -/
structure Register where
  positions : List (String × Nat) := []
  again : List String := []

/-- Enters the id of the document at a position. -/
def Register.enter (r : Register) (id : String) (position : Nat) : Register :=
  match r.positions.lookup id with
  | some _ => { r with again := id :: r.again }
  | none => { r with positions := r.positions ++ [(id, position)] }

/-- Enters the ids of documents, the first of which is at a position. -/
def Register.enterAll (r : Register) (position : Nat) : List Document → Register
  | [] => r
  | doc :: rest => (r.enter doc.id position).enterAll (position + 1) rest

/-- The collection of the given documents. -/
def ofList (docs : List Document) : Collection :=
  let r := Register.enterAll {} 0 docs
  ⟨docs, r.positions, Taxonomy.inOrder r.again⟩

/-- The position of the first document with a given id. -/
def position? (c : Collection) (id : String) : Option Nat := c.positions.lookup id

/-- The first document with a given id. -/
def get? (c : Collection) (id : String) : Option Document := do c.documents[← c.position? id]?

/-- Whether the collection has a document with a given id. -/
def contains (c : Collection) (id : String) : Bool := (c.position? id).isSome

/-- The number of documents. -/
def size (c : Collection) : Nat := c.documents.length

end Collection

end Dossier
