import Dossier.Json.Record

/-!
# Messages

Requests and responses of JSON-RPC, one on each line. A request is decoded while its text is read,
so the first fault counts, be it of spelling or of meaning, and members of unknown names are passed
over without being looked into. A request without an id asks for no response.
-/

namespace Dossier.Rpc

open Json

/-- What tells the responses to requests apart. -/
inductive Id where
  | text (s : String)
  | number (n : Int)
  deriving DecidableEq, Repr

/-- The id that a value is: a string or a whole number of 64 bits with sign. -/
def Id.ofJson : Decoder Id
  | .string s => .ok (.text s)
  | .int n => 
    if -(Decimal.positiveCount : Int) ≤ n && n < Decimal.positiveCount then .ok (.number n)
    else .error (.noneFits "JsonRpcId")
  | _ => .error (.noneFits "JsonRpcId")

/-- An id as a value. -/
def Id.toJson : Id → Value
  | text s => .string s
  | number n => .int n

/-- A request. -/
structure Request where
  version : String := ""
  id : Option Id := none
  method : String := ""
  params : Option Value := none

namespace Request

/-! ## From a value -/

/-- The request with one field set. -/
def set (r : Request) (key : String) (v : Value) : Except DecodeError Request :=
  match key with
  | "jsonrpc" => do return { r with version := ← Decoder.string v }
  | "id" => do return { r with id := ← Decoder.option Id.ofJson v }
  | "method" => do return { r with method := ← Decoder.string v }
  | "params" => do return { r with params := ← Decoder.option .ok v }
  | _ => .ok r

/-- How a request is given. -/
def shape : Shape Request where
  name := "JsonRpcRequest"
  fields := ["jsonrpc", "id", "method", "params"]
  required := ["jsonrpc", "method"]
  atLeast := 3
  set := set

/-- The request that a value is. -/
def ofJson : Decoder Request := shape.decode {}

/-! ## From text -/

/-- The request with one field set from a draft. A version or method that does not begin as a
string is refused before it is read to its end. -/
def setDraft (r : Request) (key : String) (d : Draft) : Except DecodeError Request :=
  match key, d with
  | "id", d | "params", d => shape.setInner r key d
  | _, .string (.ok s) => r.set key (.string s)
  | _, d => .error (d.refuse "a string")

/-- The request that a text is. -/
def read (text : String) : Except DecodeError Request := shape.read setDraft {} text

end Request

/-! ## Responses -/

/-- The kinds of failure that there are numbers for. -/
inductive Code where
  | parseError
  | invalidRequest
  | methodNotFound
  | invalidParams
  | internalError
  deriving DecidableEq, Repr

/-- The number of a kind of failure. -/
def Code.number : Code → Int
  | parseError => -32700
  | invalidRequest => -32600
  | methodNotFound => -32601
  | invalidParams => -32602
  | internalError => -32603

/-- What a response reports. -/
inductive Outcome where
  | result (v : Value)
  | failure (code : Code) (message : String)

/-- The response to a request. -/
structure Response where
  id : Value
  outcome : Outcome

/-- A response as an object. -/
def Response.toJson (r : Response) : Value :=
  .object
    [("jsonrpc", .string "2.0"), ("id", r.id),
      match r.outcome with
      | .result v => ("result", v)
      | .failure code message =>
        ("error", .object [("code", .int code.number), ("message", .string message)])]

/-- The id that a response to an undecodable line bears: that of the line, if the line is JSON all
the same. -/
def recoverId (line : String) : Value :=
  match Value.read line with
  | .ok v =>
    match v.get? "id" with
    | some (.string s) => .string s
    | some (.int n) => .int n
    | some (.float x) => .float x
    | _ => .null
  | .error _ => .null

end Dossier.Rpc
