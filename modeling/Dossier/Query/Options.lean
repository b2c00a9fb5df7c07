import Dossier.Document.Basic
import Dossier.Json.Record

/-!
# Options of a query

Which documents a query asks for, in which order, and which page of them. A filter whose list is
empty or whose value is absent is not set.
-/

namespace Dossier.Query

open Json

/-- A field that a text is searched in. -/
inductive SearchField where
  | title
  | content
  | id
  | tags
  deriving DecidableEq, Repr

namespace SearchField

/-- All fields that a text is searched in. -/
def all : List SearchField := [.title, .content, .id, .tags]

/-- The name of a field. -/
def name : SearchField → String
  | title => "title"
  | content => "content"
  | id => "id"
  | tags => "tags"

end SearchField

/-- What documents are sorted by. `relationships` is the number of links. -/
inductive SortField where
  | created
  | updated
  | title
  | type
  | status
  | relationships
  deriving DecidableEq, Repr

namespace SortField

/-- All that documents are sorted by. -/
def all : List SortField := [.created, .updated, .title, .type, .status, .relationships]

/-- The name of a sort key. -/
def name : SortField → String
  | created => "created"
  | updated => "updated"
  | title => "title"
  | type => "type"
  | status => "status"
  | relationships => "relationships"

end SortField

/-- The direction of sorting. -/
inductive SortOrder where
  | ascending
  | descending
  deriving DecidableEq, Repr

namespace SortOrder

/-- Both directions. -/
def all : List SortOrder := [.ascending, .descending]

/-- The name of a direction. -/
def name : SortOrder → String
  | ascending => "asc"
  | descending => "desc"

end SortOrder

/-- The options of a query. Bounds on dates are inclusive. -/
structure Options where
  types : List String := []
  domains : List Domain := []
  statuses : List Status := []
  priorities : List Priority := []
  textSearch : Option String := none
  /-- The fields searched, all of them if none are given. -/
  searchFields : Option (List SearchField) := none
  dependsOn : List String := []
  enables : List String := []
  relatedTo : List String := []
  conflictsWith : List String := []
  createdAfter : Option String := none
  createdBefore : Option String := none
  updatedAfter : Option String := none
  updatedBefore : Option String := none
  owner : Option String := none
  stakeholders : List String := []
  reviewers : List String := []
  hasSuccessCriteria : Option Bool := none
  hasRisks : Option Bool := none
  hasMetrics : Option Bool := none
  sortBy : Option SortField := none
  sortOrder : SortOrder := .ascending
  offset : Nat := 0
  /-- The most documents that a page has, if there is a limit. -/
  limit : Option Nat := none
  includeContent : Bool := false
  deriving DecidableEq, Repr

namespace Options

/-- The options with one field set. `isEmpty` says which payloads of a named variant are empty. -/
def set (isEmpty : Value → Bool) (o : Options) (key : String) (v : Value) :
    Except DecodeError Options :=
  let strings := Decoder.list Decoder.string
  let string? := Decoder.option Decoder.string
  let boolean? := Decoder.option Decoder.boolean
  match key with
  | "types" => do return { o with types := ← strings v }
  | "domains" => do
    return { o with
      domains := ← Decoder.list (Decoder.variantWith isEmpty Domain.all Domain.name) v }
  | "statuses" => do
    return { o with
      statuses := ← Decoder.list (Decoder.variantWith isEmpty Status.all Status.name) v }
  | "priorities" => do
    return { o with
      priorities := ← Decoder.list (Decoder.variantWith isEmpty Priority.all Priority.name) v }
  | "textSearch" => do return { o with textSearch := ← string? v }
  | "searchFields" => do
    return { o with
      searchFields := ← Decoder.option
        (Decoder.list (Decoder.variantWith isEmpty SearchField.all SearchField.name)) v }
  | "dependsOn" => do return { o with dependsOn := ← strings v }
  | "enables" => do return { o with enables := ← strings v }
  | "relatedTo" => do return { o with relatedTo := ← strings v }
  | "conflictsWith" => do return { o with conflictsWith := ← strings v }
  | "createdAfter" => do return { o with createdAfter := ← string? v }
  | "createdBefore" => do return { o with createdBefore := ← string? v }
  | "updatedAfter" => do return { o with updatedAfter := ← string? v }
  | "updatedBefore" => do return { o with updatedBefore := ← string? v }
  | "owner" => do return { o with owner := ← string? v }
  | "stakeholders" => do return { o with stakeholders := ← strings v }
  | "reviewers" => do return { o with reviewers := ← strings v }
  | "hasSuccessCriteria" => do return { o with hasSuccessCriteria := ← boolean? v }
  | "hasRisks" => do return { o with hasRisks := ← boolean? v }
  | "hasMetrics" => do return { o with hasMetrics := ← boolean? v }
  | "sortBy" => do
    return { o with
      sortBy := ← Decoder.option (Decoder.variantWith isEmpty SortField.all SortField.name) v }
  | "sortOrder" => do
    return { o with sortOrder := ← Decoder.variantWith isEmpty SortOrder.all SortOrder.name v }
  | "offset" => do return { o with offset := ← Decoder.size v }
  | "limit" => do return { o with limit := ← Decoder.option Decoder.size v }
  | "includeContent" => do return { o with includeContent := ← Decoder.boolean v }
  | _ => .ok o

/-- The name of the record of options. -/
def recordName : String := "QueryOptions"

/-- How options are given. Every field may be left out. -/
def shape (isEmpty : Value → Bool) : Shape Options where
  name := recordName
  fields :=
    ["types", "domains", "statuses", "priorities", "textSearch", "searchFields", "dependsOn",
      "enables", "relatedTo", "conflictsWith", "createdAfter", "createdBefore", "updatedAfter",
      "updatedBefore", "owner", "stakeholders", "reviewers", "hasSuccessCriteria", "hasRisks",
      "hasMetrics", "sortBy", "sortOrder", "offset", "limit", "includeContent"]
  required := []
  atLeast := 0
  set := set isEmpty

/-- The options that a value gives. -/
def ofJson : Decoder Options := (shape (· matches .null)).decode {}

/-- The options that the arguments of a call give. There an empty object is an empty payload,
too. -/
def ofArguments : Decoder Options
  | .array items =>
    (shape (· matches .null | .object [])).ofItems "25 elements in sequence" {} items
  | v => (shape (· matches .null | .object [])).decode {} v

/-- The options that a text gives. -/
def read (text : String) : Except DecodeError Options :=
  let shape := shape (· matches .null)
  shape.read shape.setInner {} text

end Options

end Dossier.Query
