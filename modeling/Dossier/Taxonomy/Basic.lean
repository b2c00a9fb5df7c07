import Dossier.Document.Basic

/-!
# Taxonomies

A taxonomy is the vocabulary that documents are checked and grouped by: which codes are types,
which domain a type belongs to, which types a domain is expected to have (its checklist), which
types form a family, and which ones are the foundation of everything else.
-/

namespace Dossier

/-- A taxonomy. Domains stand in their order in `checklists`, family names in ascending order, and
the known types are in ascending order without repetition. -/
structure Taxonomy where
  /-- The domain of each type that has one. -/
  typeDomains : List (String × Domain)
  /-- The types that each domain is expected to have. -/
  checklists : List (Domain × List String)
  families : List (String × List String)
  knownTypes : List String
  foundationTypes : List String
  /-- The number of types that a complete collection has. -/
  knownTypeCount : Nat
  /-- The domain whose cluster is always critical. -/
  strategicDomain : Domain
  /-- The domain of documents that no other rule places. -/
  fallbackDomain : Domain
  deriving Repr

namespace Taxonomy

/-- The domain of a type. -/
def domainOfType? (t : Taxonomy) (code : String) : Option Domain := t.typeDomains.lookup code

/-- The domain of a document: its own, else that of its type, else the fallback. -/
def domainOf (t : Taxonomy) (doc : Document) : Domain :=
  match doc.domain with
  | some d => d
  | none => (t.domainOfType? doc.type).getD t.fallbackDomain

/-- The checklist of a domain, empty if it has none. -/
def checklist (t : Taxonomy) (d : Domain) : List String := (t.checklists.lookup d).getD []

/-- The first family that a type is in. -/
def familyOf? (t : Taxonomy) (code : String) : Option String :=
  (t.families.find? fun f => f.2.contains code).map (·.1)

/-- Whether a code is a type. -/
def isKnownType (t : Taxonomy) (code : String) : Bool := t.knownTypes.contains code

/-- Whether a type is part of the foundation. -/
def isFoundationType (t : Taxonomy) (code : String) : Bool := t.foundationTypes.contains code

/-- The domains that have a checklist. -/
def domains (t : Taxonomy) : List Domain := t.checklists.map (·.1)

end Taxonomy

end Dossier
