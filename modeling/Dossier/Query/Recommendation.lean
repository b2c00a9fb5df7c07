import Dossier.Document.Json
import Dossier.Registry

/-!
# Recommendations for a collection

What a collection lacks: types without a document, links to ids that are not there, and domains
without documents.
-/

namespace Dossier.Query

open Json

/-- A link of a document to an id that is not in the collection. -/
structure DanglingLink where
  source : String
  target : String
  deriving DecidableEq, Repr

/-- The wording of a dangling link. -/
def DanglingLink.text (l : DanglingLink) : String := s!"{l.source} -> {l.target}"

/-- A domain without documents, and the types to begin with. -/
structure Opportunity where
  domain : Domain
  types : List String
  deriving DecidableEq, Repr

/-- The wording of an opportunity. -/
def Opportunity.text (o : Opportunity) : String :=
  s!"No {o.domain.name} documents yet: start with " ++ ", ".intercalate o.types

/-- What a collection lacks. -/
structure Recommendations where
  missingTypes : List String
  danglingLinks : List DanglingLink
  opportunities : List Opportunity
  deriving DecidableEq, Repr

/-- The links of a document that dangle. -/
def danglingLinks (c : Collection) (doc : Document) : List DanglingLink :=
  (doc.links.filter fun target => !c.contains target).map (⟨doc.id, ·⟩)

/-- What the collection of a registry lacks. -/
def recommend (r : Registry) : Recommendations :=
  let types := r.documents.map (·.type)
  { missingTypes := r.taxonomy.knownTypes.filter fun code => !types.contains code
    danglingLinks := r.documents.flatMap (danglingLinks r.collection)
    opportunities := (r.taxonomy.domains.filter fun d => !r.domains.contains d).map fun d =>
      ⟨d, (r.taxonomy.checklist d).take 3⟩ }

/-- Recommendations as an object. -/
def Recommendations.toJson (r : Recommendations) : Value :=
  .object
    [("missingTypes", .strings r.missingTypes),
      ("incompleteChains", .strings (r.danglingLinks.map DanglingLink.text)),
      ("opportunities", .strings (r.opportunities.map Opportunity.text))]

end Dossier.Query
