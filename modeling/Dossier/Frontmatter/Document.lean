import Dossier.Calendar.Date
import Dossier.Document.Json
import Dossier.Error
import Dossier.Frontmatter.Split
import Dossier.Yaml.Value

/-!
# Documents from text

A document is written as a text with frontmatter: a YAML mapping of its fields, and then its
content. All faults of the fields that every document must have are reported together; only then is
the rest decoded.
-/

namespace Dossier.Frontmatter

open Json

/-- The fields that every document must have, and not blank. -/
def requiredFields : List String :=
  ["id", "title", "type", "status", "version", "owner", "created", "updated"]

/-- The fields that stay strings where YAML reads a number. -/
def stringFields : List String := ["id", "title", "type", "version", "owner", "created", "updated"]

/-- The fields that are dates. -/
def dateFields : List String := ["created", "updated"]

/-- A number as a string of its text. -/
def numberAsString : Value → Value
  | .int i => .string (toString i)
  | .float x => .string (floatText x)
  | v => v

/-- The fields with the numbers among those that stay strings written as strings. -/
def keepStrings (fields : Members) : Members :=
  fields.map fun (key, v) => (key, if stringFields.contains key then numberAsString v else v)

/-- Whether a field is given and not blank. -/
def isPresent (fields : Members) (key : String) : Bool :=
  match fields.get? key with
  | some (.string s) => !Text.isAllBlank s
  | some .null | none => false
  | some _ => true

/-- The string of a field, unless it is empty. -/
def text? (fields : Members) (key : String) : Option String :=
  match fields.get? key with
  | some (.string s) => if s.isEmpty then none else some s
  | _ => none

/-- A fault of the string of a field, if the string is faulty. -/
def faultOf (fields : Members) (key : String) (faulty : String → Bool)
    (fault : String → FrontmatterFault) : List FrontmatterFault :=
  ((text? fields key).filter faulty).toList.map fault

/-- The faults of the fields that every document must have. -/
def faults (taxonomy : Taxonomy) (fields : Members) : List FrontmatterFault :=
  (requiredFields.filter fun key => !isPresent fields key).map .missingField ++
  faultOf fields "type" (fun code => !taxonomy.isKnownType code) .unknownType ++
  faultOf fields "status" (fun s => (Status.ofName? s).isNone) .unknownStatus ++
  dateFields.flatMap fun key =>
    faultOf fields key (fun text => (Date.read? text).isNone) (.noDate key)

/-- The fields that are not `null`. -/
def withoutNulls (fields : Members) : Members := fields.filter fun m => !m.2.isNull

/-- The fields that are decoded: those that are not `null`, with the content and without a
source. -/
def decodedFields (fields : Members) (content : String) : Members :=
  ((withoutNulls fields).put "content" (.string content)).drop "source"

/-- The fields that frontmatter gives. -/
def readFields (source yaml : String) : Except Error Members :=
  match Yaml.Value.read? yaml with
  | none => .error (.brokenYaml source yaml)
  | some v =>
    if v.isMapping then
      match v.toJson with
      | .ok (.object members) => .ok members
      | .ok _ => .error (.invalidDocument source [.notMapping])
      | .error e => .error (.undecodable (.broken e))
    else .error (.invalidDocument source [.notMapping])

/-- The document of given fields and content. -/
def ofFields (taxonomy : Taxonomy) (source : String) (fields : Members) (content : String) :
    Except Error Document :=
  match faults taxonomy fields with
  | [] =>
    match Document.ofJson (.object (decodedFields fields content)) with
    | .ok doc => .ok { doc with source := some source }
    | .error e => .error (.invalidDocument source [.undecodable e])
  | fs => .error (.invalidDocument source fs)

/-- The document that a text writes. `source` is where the text comes from. -/
def readDocument (taxonomy : Taxonomy) (source text : String) : Except Error Document :=
  match split? text with
  | none => .error (.invalidDocument source [.absent])
  | some f => do
    let fields ← readFields source f.yaml
    ofFields taxonomy source (keepStrings fields) (Text.trim f.body)

end Dossier.Frontmatter
