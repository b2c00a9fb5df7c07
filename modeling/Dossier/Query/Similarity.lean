import Dossier.Document.Json
import Dossier.Registry
import Dossier.Text.Blank
import Dossier.Text.LetterCase

/-!
# Similarity of documents

How alike two documents are is a weighted sum of what they share: their domain, the family of their
types, each id that both depend on or both enable, and the words of their texts.
-/

namespace Dossier.Query

open Json

/-- The number of strings that two lists share, each counted once. -/
def sharedCount (a b : List String) : Nat := (a.eraseDups.filter b.contains).length

/-- The words of a text in lower case. -/
def contentWords (content : String) : List String := (Text.words content).map Text.lower

/-- The lesser of two doubles. -/
def lesser (x y : Float) : Float := if x < y then x else y

/-- The similarity of documents that share as much as stated, from 0 to 1. -/
def score (sameDomain sameFamily : Bool) (sharedTargets commonWords : Nat) : Float :=
  let s := 0.0
  let s := if sameDomain then s + 0.3 else s
  let s := if sameFamily then s + 0.2 else s
  let s := s + Float.ofNat sharedTargets * 0.1
  let s := s + lesser (Float.ofNat commonWords / 100.0) 0.3
  lesser s 1.0

/-- Whether two types are in one family. A type outside every family is in no family with
another. -/
def sameFamily (taxonomy : Taxonomy) (a b : String) : Bool :=
  match taxonomy.familyOf? a with
  | some family => taxonomy.familyOf? b == some family
  | none => false

/-- The similarity of two documents. -/
def similarity (taxonomy : Taxonomy) (a b : Document) : Float :=
  score (taxonomy.domainOf a == taxonomy.domainOf b) (sameFamily taxonomy a.type b.type)
    (sharedCount a.dependsOn b.dependsOn + sharedCount a.enables b.enables)
    (sharedCount (contentWords a.content) (contentWords b.content))

/-- A document and its similarity to another. -/
structure Similar where
  similarity : Float
  document : Document

/-- The documents of other ids than `id`, each with its similarity to the first document with that
id, in descending order of it. Equally similar documents keep their order. -/
def rank (r : Registry) (id : String) : List Similar :=
  match r.documents.find? (·.id == id) with
  | none => []
  | some doc =>
    let others := r.documents.filter (·.id != id)
    let scored := others.map fun other => ⟨similarity r.taxonomy doc other, other⟩
    scored.mergeSort fun a b => !(a.similarity < b.similarity)

/-- The documents most similar to the one with a given id, at most `limit` of them. -/
def similar (r : Registry) (id : String) (limit : Nat) : List Similar := (rank r id).take limit

/-- A ranked document as an object: its similarity, and then the members of the document. -/
def Similar.toJson (s : Similar) : Value :=
  .object (("similarity", .float s.similarity) :: (s.document.fieldMembers ++ s.document.extra))

end Dossier.Query
