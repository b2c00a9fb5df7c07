import Dossier.Json.Decode
import Dossier.Taxonomy.Settings
import Dossier.Text.Utf8

/-!
# Errors

Everything for which a request is refused, as causes, and their wording.
-/

namespace Dossier

/-- What two libraries say of a text that they refuse, in words of their own. -/
structure Wording where
  /-- Where the JSON library met the fault of a text that was read as a record of the given name.
  It ends the library's message. -/
  jsonPlace : (record text : String) → String
  /-- What the YAML library finds wrong with a text. -/
  yamlFault : String → String

/-- What is wrong with the frontmatter of a document. -/
inductive FrontmatterFault where
  | absent
  | notMapping
  | missingField (key : String)
  | unknownType (code : String)
  | unknownStatus (status : String)
  | noDate (key text : String)
  | undecodable (cause : Json.DecodeError)

/-- The wording of a fault. -/
def FrontmatterFault.message : FrontmatterFault → String
  | .absent => "No YAML frontmatter found in document"
  | .notMapping => "Frontmatter must be a YAML mapping"
  | .missingField key => s!"Missing required field: {key}"
  | .unknownType code => s!"Invalid document type: {code}"
  | .unknownStatus status =>
    s!"Invalid status: {status} (expected one of Draft, Review, Accepted, Deprecated)"
  | .noDate key text => s!"Invalid {key} date (expected YYYY-MM-DD): {text}"
  | .undecodable cause => cause.message

/-- Why something that is asked for is refused. -/
inductive Error where
  | notUtf8 (cause : Text.Utf8Error)
  | invalidTaxonomy (cause : TaxonomyError)
  | notDirectory (path : String)
  | brokenYaml (source yaml : String)
  | invalidDocument (source : String) (faults : List FrontmatterFault)
  | documentNotFound (id : String)
  | undecodable (cause : Json.DecodeError)
  | unknownStatus (text : String)
  | unknownDomain (text : String)

/-- The wording of an error. -/
def Error.message (w : Wording) : Error → String
  | .notUtf8 cause => s!"IO error: {cause.message}"
  | .invalidTaxonomy cause => s!"Configuration error: {cause.message}"
  | .notDirectory path => s!"Configuration error: Docs folder is not a directory: {path}"
  | .brokenYaml source yaml => s!"Parse error: YAML parse error in {source}: {w.yamlFault yaml}"
  | .invalidDocument source faults =>
    s!"Invalid document {source}: " ++ "; ".intercalate (faults.map FrontmatterFault.message)
  | .documentNotFound id => s!"Document not found: {id}"
  | .undecodable cause => s!"Serialization error: {cause.message}"
  | .unknownStatus text => s!"Invalid input: Unknown status: {text}"
  | .unknownDomain text => s!"Invalid input: Unknown domain: {text}"

/-- The status of a given name. -/
def Status.read (text : String) : Except Error Status :=
  match Status.ofName? text with
  | some s => .ok s
  | none => .error (.unknownStatus text)

/-- The domain of a given name. -/
def Domain.read (text : String) : Except Error Domain :=
  match Domain.ofName? text with
  | some d => .ok d
  | none => .error (.unknownDomain text)

end Dossier
