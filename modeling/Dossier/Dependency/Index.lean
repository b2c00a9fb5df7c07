import Dossier.Dependency.Basic

/-!
# Documents by their ids

An index is filled in one pass over documents and keeps the first document of every id. In which
order an index is gone through is nobody's choice; what is made of it must not depend on that.
-/

namespace Dossier.Dependency

/-- Documents under their ids. -/
abbrev Index := List (String × Document)

namespace Index

/-- Enters a document under its id, unless there is one already. -/
def enter (ix : Index) (doc : Document) : Index :=
  match ix.lookup doc.id with
  | some _ => ix
  | none => ix ++ [(doc.id, doc)]

/-- The index of the given documents. -/
def ofList (docs : List Document) : Index := docs.foldl enter []

/-- The document under an id. -/
def get? (ix : Index) (id : String) : Option Document := ix.lookup id

/-- What depends on which id, by the documents of an index. -/
def reverse (ix : Index) : Reverse := .ofSources (·.1) (·.2.dependsOn) ix

/-- The ids of the documents that depend on an id, in the order of the index. -/
def dependents (ix : Index) (target : String) : List String := ix.reverse.under target

/-- The ids that documents depend on and that have no document, each once. -/
def dangling (ix : Index) : List String :=
  (ix.reverse.map (·.1)).filter fun target => (ix.get? target).isNone

end Index

end Dossier.Dependency
