import Dossier.Document.Basic
import Dossier.Json.Decode

/-!
# Documents as JSON

A document is written with its fields in a fixed order, those that are empty or absent being left
out except for the references, and then the members of `extra`. It is read from an object whose
members are in ascending order of their keys: each member sets its field, members of other names
are kept in `extra`, and what is left out has its default.
-/

namespace Dossier.Document

open Json

/-! ## Writing -/

/-- A list field that is left out if it is empty. -/
def listMember (key : String) (ss : List String) : Members :=
  if ss.isEmpty then [] else [(key, .strings ss)]

/-- A field that is left out if it has no value. -/
def optionMember (key : String) (v : Option Value) : Members :=
  match v with
  | some v => [(key, v)]
  | none => []

/-- The members that write the fields of the document. -/
def fieldMembers (doc : Document) : Members :=
  [("id", .string doc.id), ("title", .string doc.title), ("type", .string doc.type),
    ("status", .string doc.status.name), ("version", .string doc.version),
    ("owner", .string doc.owner)] ++
  listMember "stakeholders" doc.stakeholders ++
  listMember "reviewers" doc.reviewers ++
  [("created", .string doc.created), ("updated", .string doc.updated)] ++
  optionMember "review_cycle" (doc.reviewCycle.map fun c => .string c.name) ++
  [("depends_on", .strings doc.dependsOn), ("enables", .strings doc.enables),
    ("conflicts_with", .strings doc.conflictsWith), ("related", .strings doc.related)] ++
  optionMember "supersedes" (doc.supersedes.map .string) ++
  optionMember "domain" (doc.domain.map fun d => .string d.name) ++
  optionMember "priority" (doc.priority.map fun p => .string p.name) ++
  optionMember "success_criteria" (doc.successCriteria.map .strings) ++
  listMember "assumptions" doc.assumptions ++
  listMember "constraints" doc.constraints ++
  listMember "risks" doc.risks ++
  listMember "metrics" doc.metrics ++
  listMember "tags" doc.tags ++
  [("content", .string doc.content)] ++
  optionMember "source" (doc.source.map .string)

/-- The document as an object. -/
def toJson (doc : Document) : Value := .object (doc.fieldMembers ++ doc.extra)

/-! ## Reading -/

/-- The names of the fields. -/
def fieldNames : List String :=
  ["id", "title", "type", "status", "version", "owner", "stakeholders", "reviewers", "created",
    "updated", "review_cycle", "depends_on", "enables", "conflicts_with", "related", "supersedes",
    "domain", "priority", "success_criteria", "assumptions", "constraints", "risks", "metrics",
    "tags", "content", "source"]

/-- The names of the fields that have no default. -/
def requiredNames : List String :=
  ["id", "title", "type", "status", "version", "owner", "created", "updated"]

/-- The document with one member set. -/
def set (doc : Document) (key : String) (v : Value) : Except DecodeError Document :=
  match key with
  | "id" => do return { doc with id := ← Decoder.string v }
  | "title" => do return { doc with title := ← Decoder.string v }
  | "type" => do return { doc with type := ← Decoder.string v }
  | "status" => do return { doc with status := ← Decoder.variant Status.all Status.name v }
  | "version" => do return { doc with version := ← Decoder.string v }
  | "owner" => do return { doc with owner := ← Decoder.string v }
  | "stakeholders" => do return { doc with stakeholders := ← Decoder.list Decoder.string v }
  | "reviewers" => do return { doc with reviewers := ← Decoder.list Decoder.string v }
  | "created" => do return { doc with created := ← Decoder.string v }
  | "updated" => do return { doc with updated := ← Decoder.string v }
  | "review_cycle" => do
    return { doc with
      reviewCycle := ← Decoder.option (Decoder.variant ReviewCycle.all ReviewCycle.name) v }
  | "depends_on" => do return { doc with dependsOn := ← Decoder.list Decoder.string v }
  | "enables" => do return { doc with enables := ← Decoder.list Decoder.string v }
  | "conflicts_with" => do return { doc with conflictsWith := ← Decoder.list Decoder.string v }
  | "related" => do return { doc with related := ← Decoder.list Decoder.string v }
  | "supersedes" => do return { doc with supersedes := ← Decoder.option Decoder.string v }
  | "domain" => do
    return { doc with domain := ← Decoder.option (Decoder.variant Domain.all Domain.name) v }
  | "priority" => do
    return { doc with priority := ← Decoder.option (Decoder.variant Priority.all Priority.name) v }
  | "success_criteria" => do
    return { doc with successCriteria := ← Decoder.option (Decoder.list Decoder.string) v }
  | "assumptions" => do return { doc with assumptions := ← Decoder.list Decoder.string v }
  | "constraints" => do return { doc with constraints := ← Decoder.list Decoder.string v }
  | "risks" => do return { doc with risks := ← Decoder.list Decoder.string v }
  | "metrics" => do return { doc with metrics := ← Decoder.list Decoder.string v }
  | "tags" => do return { doc with tags := ← Decoder.list Decoder.string v }
  | "content" => do return { doc with content := ← Decoder.string v }
  | "source" => do return { doc with source := ← Decoder.option Decoder.string v }
  | _ => .ok { doc with extra := doc.extra ++ [(key, v)] }

/-- The document with members set one after another. -/
def setAll (doc : Document) : Members → Except DecodeError Document
  | [] => .ok doc
  | (key, v) :: rest => do (← doc.set key v).setAll rest

/-- The document of an object. -/
def ofJson : Decoder Document
  | .object members => do
    let doc ← (named "" "").setAll members
    requireFields requiredNames members
    return doc
  | v => .error (.invalidType v "struct Document")

end Dossier.Document
