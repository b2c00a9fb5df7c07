import Dossier.Chain
import Dossier.CriticalPath
import Dossier.Graph.Basic
import Dossier.Impact
import Dossier.Query.Recommendation
import Dossier.Query.Result
import Dossier.Query.Similarity
import Dossier.Query.Statistics
import Dossier.Validation.Report

/-!
# Tools

The tools that a client may call. A call names a tool and gives its arguments; its answer is the
text of a JSON value, or the complaint that there is no document with the id it asks for.
-/

namespace Dossier.Rpc

open Json

/-- A call of a tool. -/
inductive Call where
  | query (options : Query.Options)
  | get (id : String) (includeContent : Bool)
  | graph
  | impact (id : String)
  | chains
  | similar (id : String) (limit : Option Nat)
  | stats
  /-- Validates one document, or all of them. -/
  | validate (id : Option String)
  | criticalPath
  | recommendations

/-- What the clocks show while something is answered: the day, and the milliseconds that a query
takes. -/
structure Moment where
  today : Date
  milliseconds : Nat

namespace Call

/-! ## Decoding -/

/-- The tools by name, with the name of the record of their arguments. -/
def tools : List (String × String) :=
  [("bspec_query", "Query"), ("bspec_get", "Get"), ("bspec_graph", "Graph"),
    ("bspec_impact", "Impact"), ("bspec_chains", "Chains"), ("bspec_similar", "Similar"),
    ("bspec_stats", "Stats"), ("bspec_validate", "Validate"),
    ("bspec_critical_path", "CriticalPath"), ("bspec_recommendations", "Recommendations")]

/-- The arguments of the tools, taken together. -/
structure Arguments where
  id : Option String := none
  includeContent : Bool := true
  limit : Option Nat := none

/-- What a tool does with an argument. -/
abbrev Setter := Arguments → Value → Except DecodeError Arguments

/-- An id that must be given. -/
def setId : Setter := fun a v => do return { a with id := some (← Decoder.string v) }

/-- An id that may be `null`. -/
def setOptionalId : Setter :=
  fun a v => do return { a with id := ← Decoder.option Decoder.string v }

/-- Whether the text of a document is wanted. -/
def setIncludeContent : Setter := fun a v => do
  return { a with includeContent := ← Decoder.boolean v }

/-- A number of documents that may be `null`. -/
def setLimit : Setter := fun a v => do return { a with limit := ← Decoder.option Decoder.size v }

/-- The arguments given by members, with the setters of those that count. -/
def setArguments (setters : List (String × Setter)) (a : Arguments) :
    Members → Except DecodeError Arguments
  | [] => .ok a
  | (key, v) :: rest => do
    let a ←
      match setters.lookup key with
      | some set => set a v
      | none => .ok a
    setArguments setters a rest

/-- The arguments of a tool, which are given as an object. -/
def decodeArguments (name : String) (setters : List (String × Setter)) (required : List String) :
    Decoder Arguments
  | .object members => do
    let a ← setArguments setters {} members
    requireFields required members
    return a
  | v => .error (.invalidType v s!"struct variant ToolCall::{name}")

/-- The arguments of a tool that has none. -/
def decodeNone (name : String) : Decoder Unit := fun v => do
  let _ ← decodeArguments name [] [] v
  return

/-- The call of a tool with the given arguments. -/
def decode (tool : String) (arguments : Value) : Except DecodeError Call :=
  match tool with
  | "bspec_query" => (Query.Options.ofArguments arguments).map query
  | "bspec_get" => do
    let a ← decodeArguments "Get" [("id", setId), ("includeContent", setIncludeContent)] ["id"]
      arguments
    return get (a.id.getD "") a.includeContent
  | "bspec_graph" => (decodeNone "Graph" arguments).map fun _ => graph
  | "bspec_impact" => do
    let a ← decodeArguments "Impact" [("id", setId)] ["id"] arguments
    return impact (a.id.getD "")
  | "bspec_chains" => (decodeNone "Chains" arguments).map fun _ => chains
  | "bspec_similar" => do
    let a ← decodeArguments "Similar" [("id", setId), ("limit", setLimit)] ["id"] arguments
    return similar (a.id.getD "") a.limit
  | "bspec_stats" => (decodeNone "Stats" arguments).map fun _ => stats
  | "bspec_validate" => do
    let a ← decodeArguments "Validate" [("id", setOptionalId)] [] arguments
    return validate a.id
  | "bspec_critical_path" => (decodeNone "CriticalPath" arguments).map fun _ => criticalPath
  | "bspec_recommendations" => (decodeNone "Recommendations" arguments).map fun _ =>
    recommendations
  | name => .error (.unknownVariant name (tools.map (·.1)))

/-! ## Running -/

/-- The answer to a call. -/
inductive Answer where
  | value (v : Value)
  | notFound (id : String)

/-- The answer that is made from the document with a given id. -/
def onDocument (r : Registry) (id : String) (answer : Document → Value) : Answer :=
  match r.collection.get? id with
  | some doc => .value (answer doc)
  | none => .notFound id

/-- Answers a call at a moment. -/
def run (r : Registry) (now : Moment) : Call → Answer
  | query options => .value (Query.run r options now.milliseconds).toJson
  | get id includeContent =>
    onDocument r id fun doc => (if includeContent then doc else doc.withoutContent).toJson
  | graph => .value (Graph.ofList r.taxonomy r.documents).toJson
  | impact id => .value (Impact.of r.documents id).toJson
  | chains => .value (.array ((Chain.find r.documents).map Chain.toJson))
  | similar id limit =>
    onDocument r id fun _ =>
      .array ((Query.similar r id (limit.getD r.similarLimit)).map Query.Similar.toJson)
  | stats => .value (Query.statistics r now.today).toJson
  | validate (some id) =>
    onDocument r id fun doc => (Validation.validate r.taxonomy (some r.collection) doc).toJson
  | validate none => .value (Validation.validateCollection r.taxonomy r.collection).toJson
  | criticalPath => .value (CriticalPath.of r.taxonomy r.documents).toJson
  | recommendations => .value (Query.recommend r).toJson

/-- A text as the content of an answer. -/
def content (text : String) : Value :=
  .array [.object [("text", .string text), ("type", .string "text")]]

/-- An answer as an object. -/
def Answer.toJson : Answer → Value
  | .value v => .object [("content", content v.pretty)]
  | .notFound id =>
    .object [("content", content s!"Document not found: {id}"), ("isError", .bool true)]

end Call

end Dossier.Rpc
