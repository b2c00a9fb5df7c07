import Dossier.Taxonomy.Settings

/-!
# Settings

Where the documents are, how queries are answered, and which tables of the taxonomy are replaced.
Settings are given as a record of three records, of which only the first must be there.
-/

namespace Dossier

open Json

/-- The settings of the program. -/
structure Settings where
  docsFolder : String := ""
  logLevel : String := "info"
  similarLimit : Nat := 5
  suggestionThreshold : Nat := 100
  taxonomy : TaxonomySettings := {}
  deriving Repr, Inhabited

namespace Settings

/-- A record among the settings. Items of an array beyond its fields are ignored. -/
def readRecord {α : Type} (shape : Shape α) (start : α) : Decoder α
  | .array items => shape.decode start (.array (items.take shape.fields.length))
  | v => shape.decode start v

/-- How the settings of the program itself are given. -/
def programShape : Shape Settings where
  name := "BspecConfig"
  fields := ["docs_folder", "log_level"]
  required := ["docs_folder"]
  atLeast := 1
  set := fun s key v =>
    match key with
    | "docs_folder" => do return { s with docsFolder := ← Decoder.string v }
    | "log_level" => do return { s with logLevel := ← Decoder.string v }
    | _ => .ok s

/-- How the settings of queries are given. -/
def queryShape : Shape Settings where
  name := "QueryConfig"
  fields := ["similar_limit", "suggestion_threshold"]
  required := []
  atLeast := 0
  set := fun s key v =>
    match key with
    | "similar_limit" => do return { s with similarLimit := ← Decoder.size v }
    | "suggestion_threshold" => do return { s with suggestionThreshold := ← Decoder.size v }
    | _ => .ok s

/-- How settings are given. -/
def shape : Shape Settings where
  name := "Config"
  fields := ["bspec", "query", "taxonomy"]
  required := ["bspec"]
  atLeast := 1
  set := fun s key v =>
    match key with
    | "bspec" => readRecord programShape s v
    | "query" => readRecord queryShape s v
    | "taxonomy" => do return { s with taxonomy := ← readRecord TaxonomySettings.shape {} v }
    | _ => .ok s

/-- The settings that a value gives. -/
def ofValue : Decoder Settings := shape.decode {}

/-- The settings for a given folder, all others being the usual ones. -/
def forFolder (path : String) : Settings := { docsFolder := path }

end Settings

/-- Why a file cannot be read as a text. -/
inductive ReadError where
  | missing
  | isFolder
  | notText
  deriving DecidableEq, Repr

/-- The wording of a reason for which a file cannot be read. -/
def ReadError.message : ReadError → String
  | missing => "No such file or directory (os error 2)"
  | isFolder => "Is a directory (os error 21)"
  | notText => "stream did not contain valid UTF-8"

/-- Why the program cannot work with its settings. -/
inductive SettingsError where
  | unreadable (path : String) (cause : ReadError)
  | malformed (path : String)
  | folderMissing (path : String)
  | folderIsFile (path : String)
  | noSimilarDocuments
  | invalidTaxonomy (cause : TaxonomyError)
  deriving DecidableEq, Repr

namespace SettingsError

/-- The wording of an error. -/
def message : SettingsError → String
  | unreadable path _ => s!"Failed to read config file: {path}"
  | malformed path => s!"Failed to parse {path}"
  | folderMissing path =>
    s!"docs_folder path does not exist: {path}. " ++
      "Set docs_folder in config.toml to your BSpec documents directory."
  | folderIsFile path => s!"docs_folder must be a directory, not a file: {path}"
  | noSimilarDocuments => "query.similar_limit must be greater than 0"
  | invalidTaxonomy _ => "Invalid [taxonomy] section"

/-- What an error comes from, in words. -/
def causes : SettingsError → List String
  | unreadable _ cause => [cause.message]
  | invalidTaxonomy cause => [s!"Configuration error: {cause.message}"]
  | _ => []

end SettingsError

end Dossier
