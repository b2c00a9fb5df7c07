import Dossier.Json.Value

/-!
# The catalogue of tools

The names and descriptions of the tools and the schemas of their arguments, as a client is told
them.
-/

namespace Dossier.Rpc.Catalogue

open Json

/-- A string with a description. -/
def text (description : String) : Value :=
  .object [("description", .string description), ("type", .string "string")]

/-- A string of any kind. -/
def plainText : Value := .object [("type", .string "string")]

/-- A list of strings. -/
def texts : Value := .object [("items", plainText), ("type", .string "array")]

/-- A list of strings with a description. -/
def describedTexts (description : String) : Value :=
  .object
    [("description", .string description), ("items", plainText), ("type", .string "array")]

/-- One of several strings. -/
def choice (names : List String) : Value :=
  .object [("enum", .strings names), ("type", .string "string")]

/-- One of several strings, the first of which need not be given. -/
def choiceWithDefault (first : String) (names : List String) : Value :=
  .object
    [("default", .string first), ("enum", .strings (first :: names)), ("type", .string "string")]

/-- A list of some of several strings. -/
def choices (names : List String) : Value :=
  .object [("items", choice names), ("type", .string "array")]

/-- A truth value. -/
def truth : Value := .object [("type", .string "boolean")]

/-- The properties of the arguments of a query. -/
def queryProperties : Members :=
  [("conflictsWith", texts), ("createdAfter", text "YYYY-MM-DD, inclusive"),
    ("createdBefore", text "YYYY-MM-DD, inclusive"), ("dependsOn", texts),
    ("domains", describedTexts "Business domains, e.g. strategic, market"), ("enables", texts),
    ("hasMetrics", truth), ("hasRisks", truth), ("hasSuccessCriteria", truth),
    ("includeContent", .object [("default", .bool false), ("type", .string "boolean")]),
    ("limit", .object [("minimum", .int 0), ("type", .string "integer")]),
    ("offset", .object
      [("default", .int 0), ("minimum", .int 0), ("type", .string "integer")]),
    ("owner", plainText), ("priorities", choices ["critical", "high", "medium", "low"]),
    ("relatedTo", texts), ("reviewers", texts),
    ("searchFields", choices ["title", "content", "tags", "id"]),
    ("sortBy", choice ["created", "updated", "title", "type", "status", "relationships"]),
    ("sortOrder", choiceWithDefault "asc" ["desc"]), ("stakeholders", texts),
    ("statuses", choices ["Draft", "Review", "Accepted", "Deprecated"]),
    ("textSearch", text "Case-insensitive substring"),
    ("types", describedTexts "Type codes, e.g. MSN, STR"),
    ("updatedAfter", text "YYYY-MM-DD, inclusive"),
    ("updatedBefore", text "YYYY-MM-DD, inclusive")]

/-- A schema of arguments all of which may be left out. -/
def optional (properties : Members) : Value :=
  .object [("properties", .object properties), ("type", .string "object")]

/-- A schema of arguments of which the id must be given. -/
def withId (properties : Members) : Value :=
  .object
    [("properties", .object properties), ("required", .strings ["id"]), ("type", .string "object")]

/-- An entry of the catalogue. -/
def entry (name description : String) (schema : Value) : Value :=
  .object
    [("description", .string description), ("inputSchema", schema), ("name", .string name)]

/-- All tools. -/
def all : List Value :=
  [entry "bspec_query"
      ("Filter, search, sort and page BSpec documents. Returns matches, total count, " ++
        "applied filters and suggestions.")
      (optional queryProperties),
    entry "bspec_get" "Retrieve a single document by id"
      (withId
        [("id", text "Document id, e.g. STR-growth"),
          ("includeContent", .object
            [("default", .bool true), ("description", .string "Include the markdown body"),
              ("type", .string "boolean")])]),
    entry "bspec_graph"
      "Build the relationship graph: nodes, edges, domain clusters and metrics" (optional []),
    entry "bspec_impact"
      "Which documents are affected if the given document changes, with a risk level"
      (withId [("id", text "Document id to analyse")]),
    entry "bspec_chains"
      "Dependency chains in the collection, longest first, with circularity and risk factors"
      (optional []),
    entry "bspec_similar"
      ("Documents most similar to the given one by domain, type family, shared relationships " ++
        "and content words")
      (withId
        [("id", text "Reference document id"),
          ("limit", .object
            [("description", .string "Defaults to the configured similar_limit"),
              ("minimum", .int 1), ("type", .string "integer")])]),
    entry "bspec_stats"
      "Collection statistics by type, domain and status, plus relationship and age figures"
      (optional []),
    entry "bspec_validate" "Validate one document (when id is given) or the whole collection"
      (optional [("id", text "Document id; omit to validate every document")]),
    entry "bspec_critical_path"
      "Foundation-first implementation path, estimated duration and blocking drafts" (optional []),
    entry "bspec_recommendations"
      "Missing document types, dangling relationships and empty domains" (optional [])]

end Dossier.Rpc.Catalogue
