import Dossier.Json.Value

/-!
# Documents

A document is a record of a business specification: what it is, who answers for it, when it was
made, which other documents it refers to, and its text. Documents of all types share one record;
the keys that only some types use are kept in `extra`.

References name other documents by id and may dangle.
-/

namespace Dossier

/-- Where a document stands in its life. -/
inductive Status where
  | draft
  | review
  | accepted
  | deprecated
  deriving DecidableEq, Repr, Inhabited

namespace Status

/-- All statuses, in the order of a life. -/
def all : List Status := [.draft, .review, .accepted, .deprecated]

/-- The name of a status. -/
def name : Status → String
  | draft => "Draft"
  | review => "Review"
  | accepted => "Accepted"
  | deprecated => "Deprecated"

/-- The status of a given name. -/
def ofName? (s : String) : Option Status := all.find? (·.name == s)

end Status

/-- How much a document matters. -/
inductive Priority where
  | critical
  | high
  | medium
  | low
  deriving DecidableEq, Repr

namespace Priority

/-- All priorities, the highest first. -/
def all : List Priority := [.critical, .high, .medium, .low]

/-- The name of a priority. -/
def name : Priority → String
  | critical => "critical"
  | high => "high"
  | medium => "medium"
  | low => "low"

end Priority

/-- A part of the business that documents belong to. -/
inductive Domain where
  | strategic
  | market
  | customer
  | product
  | model
  | operations
  | technology
  | financial
  | risk
  | growth
  | learning
  deriving DecidableEq, Repr

namespace Domain

/-- All domains, in their order. -/
def all : List Domain :=
  [.strategic, .market, .customer, .product, .model, .operations, .technology, .financial, .risk,
    .growth, .learning]

/-- The name of a domain. -/
def name : Domain → String
  | strategic => "strategic"
  | market => "market"
  | customer => "customer"
  | product => "product"
  | model => "model"
  | operations => "operations"
  | technology => "technology"
  | financial => "financial"
  | risk => "risk"
  | growth => "growth"
  | learning => "learning"

/-- The domain of a given name. -/
def ofName? (s : String) : Option Domain := all.find? (·.name == s)

end Domain

/-- How often a document is looked over. -/
inductive ReviewCycle where
  | monthly
  | quarterly
  | annually
  deriving DecidableEq, Repr

namespace ReviewCycle

/-- All review cycles, the shortest first. -/
def all : List ReviewCycle := [.monthly, .quarterly, .annually]

/-- The name of a review cycle. -/
def name : ReviewCycle → String
  | monthly => "monthly"
  | quarterly => "quarterly"
  | annually => "annually"

end ReviewCycle

/-- A document. `created` and `updated` are dates in the form `YYYY-MM-DD`, and `source` is the
path that the document was loaded from. Success criteria that are declared but empty differ from
none. -/
structure Document where
  id : String
  title : String
  /-- The three-letter code of the type. -/
  type : String
  status : Status
  version : String
  owner : String
  stakeholders : List String := []
  reviewers : List String := []
  created : String
  updated : String
  reviewCycle : Option ReviewCycle := none
  dependsOn : List String := []
  enables : List String := []
  conflictsWith : List String := []
  related : List String := []
  supersedes : Option String := none
  domain : Option Domain := none
  priority : Option Priority := none
  successCriteria : Option (List String) := none
  assumptions : List String := []
  constraints : List String := []
  risks : List String := []
  metrics : List String := []
  tags : List String := []
  content : String := ""
  source : Option String := none
  /-- The members of other names. -/
  extra : Json.Members := []
  deriving Repr

namespace Document

/-- The least document of a given id and type. -/
def named (id type : String) : Document where
  id := id
  title := id
  type := type
  status := .draft
  version := "1.0.0"
  owner := ""
  created := ""
  updated := ""

instance : Inhabited Document := ⟨named "" ""⟩

/-- The ids of documents that the document depends on or enables. -/
def links (doc : Document) : List String := doc.dependsOn ++ doc.enables

/-- The ids of documents that the document depends on, enables or is related to, repetitions
kept. -/
def references (doc : Document) : List String := doc.dependsOn ++ doc.enables ++ doc.related

/-- Whether the document refers to `id`. -/
def refersTo (doc : Document) (id : String) : Bool := doc.references.contains id

/-- Whether the document has success criteria. -/
def hasSuccessCriteria (doc : Document) : Bool :=
  match doc.successCriteria with
  | some (_ :: _) => true
  | _ => false

/-- The document without its text. -/
def withoutContent (doc : Document) : Document := { doc with content := "" }

end Document

end Dossier
