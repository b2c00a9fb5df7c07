import Dossier.Document.Basic

/-!
# Where ids occur

An index is filled in one pass over documents. For every id it lists the positions of the documents
that have it, of those that refer to it and of those that link to it, so that nodes need not look
through all documents again.
-/

namespace Dossier.Graph

/-- Positions listed under ids. -/
abbrev Postings := List (String × List Nat)

namespace Postings

/-- The positions listed under an id. -/
def under (ps : Postings) (id : String) : List Nat := (ps.lookup id).getD []

/-- Lists a position under an id, after those that are listed there, unless it is one of them. -/
def enter (ps : Postings) (position : Nat) (id : String) : Postings :=
  match ps with
  | [] => [(id, [position])]
  | (k, listed) :: rest =>
    if k == id then (k, if listed.contains position then listed else listed ++ [position]) :: rest
    else (k, listed) :: enter rest position id

/-- Lists a position under each of some ids. -/
def enterAll (ps : Postings) (position : Nat) (ids : List String) : Postings :=
  ids.foldl (fun ps id => ps.enter position id) ps

end Postings

/-- Where ids occur in documents. -/
structure Index where
  /-- The positions of the documents with an id. -/
  having : Postings := []
  /-- The positions of the documents that refer to an id. -/
  referring : Postings := []
  /-- The positions of the documents that link to an id. -/
  linking : Postings := []

namespace Index

/-- Enters a document at a position. -/
def enter (ix : Index) (position : Nat) (doc : Document) : Index where
  having := ix.having.enter position doc.id
  referring := ix.referring.enterAll position doc.references
  linking := ix.linking.enterAll position doc.links

/-- Enters documents, the first of which is at a position. -/
def enterAll (ix : Index) (position : Nat) : List Document → Index
  | [] => ix
  | doc :: rest => (ix.enter position doc).enterAll (position + 1) rest

/-- The index of the given documents. -/
def ofList (docs : List Document) : Index := enterAll {} 0 docs

/-- The positions of the other documents that refer to the id of the document at `position`. -/
def referrers (ix : Index) (doc : Document) (position : Nat) : List Nat :=
  (ix.referring.under doc.id).filter (· != position)

/-- The positions of the neighbours of the document at `position`: of the documents that link to it
and of those that it links to. -/
def neighbours (ix : Index) (doc : Document) (position : Nat) : List Nat :=
  (ix.linking.under doc.id ++ doc.links.flatMap ix.having.under).eraseDups.filter (· != position)

end Index

end Dossier.Graph
