import Dossier.Query.Options
import Dossier.Registry
import Dossier.Text.Blank
import Dossier.Text.LetterCase

/-!
# The engine of queries

An engine is a registry with two tables beside its documents: the texts of each document that are
searched, in lower case, and its domain. The tables are made once. A query handles documents by
their positions, which are good for the documents and for both tables.
-/

namespace Dossier.Query

/-- The texts of a document that are searched, in lower case. -/
structure SearchText where
  title : String
  content : String
  id : String
  tags : List String
  deriving DecidableEq, Repr

namespace SearchText

/-- The texts of a document. -/
def of (doc : Document) : SearchText where
  title := Text.lower doc.title
  content := Text.lower doc.content
  id := Text.lower doc.id
  tags := doc.tags.map Text.lower

/-- Whether a term, which is in lower case, occurs in a field. -/
def holds (t : SearchText) (field : SearchField) (term : String) : Bool :=
  match field with
  | .title => Text.contains t.title term
  | .content => Text.contains t.content term
  | .id => Text.contains t.id term
  | .tags => t.tags.any (Text.contains · term)

end SearchText

/-- A registry, and what is kept of each of its documents, in the order of the collection. -/
structure Engine where
  registry : Registry
  texts : List SearchText
  domains : List Domain
  length_texts : texts.length = registry.documents.length
  length_domains : domains.length = registry.documents.length

namespace Engine

/-- The engine of a registry. -/
def of (r : Registry) : Engine where
  registry := r
  texts := r.documents.map .of
  domains := r.domains
  length_texts := List.length_map _
  length_domains := List.length_map _

/-- The position of a document in the collection. -/
abbrev Position (e : Engine) : Type := Fin e.registry.documents.length

/-- All positions, in ascending order. -/
def positions (e : Engine) : List e.Position := List.finRange e.registry.documents.length

/-- The document at a position. -/
def document (e : Engine) (i : e.Position) : Document := e.registry.documents.get i

/-- The searched texts of the document at a position. -/
def text (e : Engine) (i : e.Position) : SearchText := e.texts.get (i.cast e.length_texts.symm)

/-- The domain of the document at a position. -/
def domain (e : Engine) (i : e.Position) : Domain := e.domains.get (i.cast e.length_domains.symm)

end Engine

end Dossier.Query
