import Dossier.Json.Decode
import Dossier.Json.Draft

/-!
# Records decoded while their text is read

The first fault of a text counts, be it of spelling or of meaning. Members of unknown names are
passed over without being looked into, and no member of a known name may come twice.
-/

namespace Dossier.Json

/-- The value that a draft is, inside a record. -/
def Draft.inner (d : Draft) : Except DecodeError Value :=
  (d.toValue (depthLimit - 1)).mapError .broken

/-- The refusal of a draft in whose place something else is expected. Lists and objects are refused
at their first bracket. -/
def Draft.refuse (expected : String) : Draft → DecodeError
  | .null => .invalidType .null expected
  | .bool b => .invalidType (.bool b) expected
  | .number (.ok v) => .invalidType v expected
  | .number (.error e) => .broken e
  | .string (.ok s) => .invalidType (.string s) expected
  | .string (.error e) => .broken e
  | .array _ _ => .invalidType (.array []) expected
  | .object _ _ => .invalidType (.object []) expected
  | .unreadable stop => .broken stop.onRead

namespace Shape

variable {α : Type}

/-- What a field of a known name does to a record, given its draft. -/
abbrev DraftSetter (α : Type) := α → String → Draft → Except DecodeError α

/-- Sets a field from the value of its draft. -/
def setInner (shape : Shape α) : DraftSetter α := fun a key d => do shape.set a key (← d.inner)

/-- The record with members set one after another, given the names of the fields that are set. -/
def setMembers (shape : Shape α) (set : DraftSetter α) (a : α) (known : List String) :
    List DraftMember → Except DecodeError (α × List String)
  | [] => .ok (a, known)
  | (key, d) :: rest => do
    let key ← key.mapError .broken
    if !shape.fields.contains key then
      d.skip.mapError .broken
      shape.setMembers set a known rest
    else if known.contains key then throw (.duplicateField key)
    else shape.setMembers set (← set a key d) (key :: known) rest

/-- The record with fields set one after another. -/
def setItems (set : DraftSetter α) (a : α) : List (String × Draft) → Except DecodeError α
  | [] => .ok a
  | (key, d) :: rest => do setItems set (← set a key d) rest

/-- The end of an array of fields. Past the last field there is nothing but the closing bracket. -/
def checkEnd (shape : Shape α) (items : List Draft) (stop : Option Stop) :
    Except DecodeError Unit :=
  if items.length < shape.atLeast then
    match stop with
    | some s => .error (.broken s.onRead)
    | none =>
      .error (.invalidLength items.length
        s!"struct {shape.name} with {shape.fields.length} elements")
  else if items.length < shape.fields.length then (closing stop).mapError .broken
  else if items.length > shape.fields.length then .error (.broken .trailingCharacters)
  else
    match stop with
    | none => .ok ()
    | some s =>
      if s.onRead == .trailingComma || s.onRead == .endInList then .error (.broken s.onRead)
      else .error (.broken .trailingCharacters)

/-- The record that a draft is. -/
def ofDraft (shape : Shape α) (set : DraftSetter α) (start : α) : Draft → Except DecodeError α
  | .object members stop => do
    let (a, known) ← shape.setMembers set start [] members
    (closing stop).mapError .broken
    match shape.required.find? fun name => !known.contains name with
    | some name => throw (.missingField name)
    | none => return a
  | .array items stop => do
    let a ← setItems set start (shape.fields.zip items)
    shape.checkEnd items stop
    return a
  | d => .error (d.refuse s!"struct {shape.name}")

/-- The record that a text is. -/
def read (shape : Shape α) (set : DraftSetter α) (start : α) (text : String) :
    Except DecodeError α := do
  let ⟨draft, trailing⟩ := Draft.read text
  let a ← shape.ofDraft set start draft
  if trailing then throw (.broken .trailingCharacters)
  return a

end Shape

end Dossier.Json
