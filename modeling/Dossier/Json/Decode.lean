import Dossier.Decimal.Power
import Dossier.Json.Printer
import Dossier.Json.SyntaxError
import Dossier.Text.Quoted

/-!
# Decoding JSON values

The decoders of strings, numbers, lists and named variants that records are made of, and the causes
for which a value is refused. A record is given as an object, whose members are decoded in their
order, so that the first refusal counts; fields that are missing are noticed after that, in the
order in which the record declares them. Most records may also be given as an array of their
fields.
-/

namespace Dossier.Json

/-- Why a value is refused. `broken` stands for text that is no JSON. -/
inductive DecodeError where
  | broken (fault : SyntaxError)
  | invalidType (found : Value) (expected : String)
  | invalidValue (found : Value) (expected : String)
  | invalidLength (length : Nat) (expected : String)
  | unknownVariant (name : String) (known : List String)
  | missingField (name : String)
  | duplicateField (name : String)
  | noneFits (union : String)

/-- A value in a message: its kind, and the value itself unless it is a list or object. -/
def Value.describe : Value → String
  | .null => "null"
  | .bool b => s!"boolean `{b}`"
  | .int i => s!"integer `{i}`"
  | .float x => "floating point `" ++ floatText x ++ "`"
  | .string s => "string " ++ Text.quote s
  | .array _ => "sequence"
  | .object _ => "map"

/-- A name between backquotes. -/
def inBackquotes (name : String) : String := "`" ++ name ++ "`"

/-- The known names in a message: up to two as alternatives, more as a list. -/
def oneOf (known : List String) : String :=
  match known with
  | [] => "there are no variants"
  | [a] => "expected " ++ inBackquotes a
  | [a, b] => "expected " ++ inBackquotes a ++ " or " ++ inBackquotes b
  | names => "expected one of " ++ ", ".intercalate (names.map inBackquotes)

/-- The wording of a refusal. Of a text that is refused, the place of the fault is told after
it. -/
def DecodeError.message : DecodeError → String
  | .broken fault => fault.message
  | .invalidType found expected => s!"invalid type: {found.describe}, expected {expected}"
  | .invalidValue found expected => s!"invalid value: {found.describe}, expected {expected}"
  | .invalidLength length expected => s!"invalid length {length}, expected {expected}"
  | .unknownVariant name known => "unknown variant " ++ inBackquotes name ++ ", " ++ oneOf known
  | .missingField name => "missing field " ++ inBackquotes name
  | .duplicateField name => "duplicate field " ++ inBackquotes name
  | .noneFits union => s!"data did not match any variant of untagged enum {union}"

/-- A decoder of values. -/
abbrev Decoder (α : Type) := Value → Except DecodeError α

namespace Decoder

/-- A string. -/
def string : Decoder String
  | .string s => .ok s
  | v => .error (.invalidType v "a string")

/-- A truth value. -/
def boolean : Decoder Bool
  | .bool b => .ok b
  | v => .error (.invalidType v "a boolean")

/-- A natural number of 64 bits. -/
def size : Decoder Nat
  | .int i =>
    if 0 ≤ i && i < Decimal.wordCount then .ok i.toNat else .error (.invalidValue (.int i) "usize")
  | v => .error (.invalidType v "usize")

/-- Something that may be `null` instead. -/
def option {α : Type} (d : Decoder α) : Decoder (Option α)
  | .null => .ok none
  | v => (d v).map some

/-- The items of a list, decoded in order. -/
def items {α : Type} (d : Decoder α) : List Value → Except DecodeError (List α)
  | [] => .ok []
  | v :: rest => do
    let a ← d v
    return a :: (← items d rest)

/-- A list. -/
def list {α : Type} (d : Decoder α) : Decoder (List α)
  | .array vs => items d vs
  | v => .error (.invalidType v "a sequence")

/-- The values of members, decoded in order. -/
def entries {α : Type} (d : Decoder α) : Members → Except DecodeError (List (String × α))
  | [] => .ok []
  | (k, v) :: rest => do
    let a ← d v
    return (k, a) :: (← entries d rest)

/-- An object that maps names to values of one kind. -/
def map {α : Type} (d : Decoder α) : Decoder (List (String × α))
  | .object members => entries d members
  | v => .error (.invalidType v "a map")

/-- The variant of a given name. -/
def named {α : Type} (all : List α) (name : α → String) (s : String) : Except DecodeError α :=
  match all.find? (name · == s) with
  | some a => .ok a
  | none => .error (.unknownVariant s (all.map name))

/-- One of a list of variants, given by its name or as an object that maps its name to an empty
payload. -/
def variantWith {α : Type} (isEmpty : Value → Bool) (all : List α) (name : α → String) : Decoder α
  | .string s => named all name s
  | .object [(s, payload)] => do
    let a ← named all name s
    if isEmpty payload then return a else throw (.invalidType payload "unit")
  | .object members => .error (.invalidValue (.object members) "map with a single key")
  | v => .error (.invalidType v "string or map")

/-- One of a list of variants; an empty payload is `null`. -/
def variant {α : Type} (all : List α) (name : α → String) : Decoder α :=
  variantWith (· matches .null) all name

end Decoder

/-! ## Records -/

/-- Refuses members among which a required field is missing. -/
def requireFields (required : List String) (members : Members) : Except DecodeError Unit :=
  match required.find? fun name => (members.get? name).isNone with
  | some name => .error (.missingField name)
  | none => .ok ()

/-- How a record is given: its name, its fields in the order in which it declares them, those that
an object must have, how many an array must have, and what a field does to a record. -/
structure Shape (α : Type) where
  name : String
  fields : List String
  required : List String
  atLeast : Nat
  set : α → String → Value → Except DecodeError α

/-- A record with fields set one after another. -/
def Shape.setAll {α : Type} (shape : Shape α) (a : α) : Members → Except DecodeError α
  | [] => .ok a
  | (key, v) :: rest => do shape.setAll (← shape.set a key v) rest

/-- A record given by the members of an object. -/
def Shape.ofMembers {α : Type} (shape : Shape α) (start : α) (members : Members) :
    Except DecodeError α := do
  let a ← shape.setAll start members
  requireFields shape.required members
  return a

/-- A record given by its fields in order. An array that is too long for it is refused after its
fields, in the words of `surplus`. -/
def Shape.ofItems {α : Type} (shape : Shape α) (surplus : String) (start : α)
    (items : List Value) :
    Except DecodeError α := do
  let a ← shape.setAll start (shape.fields.zip items)
  if items.length < shape.atLeast then
    throw (.invalidLength items.length s!"struct {shape.name} with {shape.fields.length} elements")
  if items.length > shape.fields.length then throw (.invalidLength items.length surplus)
  return a

/-- A record given as an object or as an array of its fields. -/
def Shape.decode {α : Type} (shape : Shape α) (start : α) : Decoder α
  | .object members => shape.ofMembers start members
  | .array items => shape.ofItems "fewer elements in array" start items
  | v => .error (.invalidType v s!"struct {shape.name}")

end Dossier.Json
