import Dossier.Error
import Dossier.Rpc.Catalogue
import Dossier.Rpc.Message
import Dossier.Rpc.Tool
import Dossier.Text.Blank
import Dossier.Text.Lines
import Dossier.Text.Utf8

/-!
# The server

The server answers requests line by line until its input ends, or until a line is not UTF-8. The
flag that a client is ready is kept but consulted by nobody. Clocks are read while a line is
answered, and may show something else at each line.
-/

namespace Dossier.Rpc

open Json

/-- What is wrong with the parameters of a request. -/
inductive ProtocolError where
  | invalidInitialize (cause : DecodeError)
  | missingParams
  | invalidParams (cause : DecodeError)
  | invalidArguments (tool : String) (cause : DecodeError)

/-- The wording of a protocol error. -/
def ProtocolError.message : ProtocolError → String
  | .invalidInitialize cause => s!"MCP protocol error: Invalid initialize params: {cause.message}"
  | .missingParams => "MCP protocol error: Missing params for tools/call"
  | .invalidParams cause => s!"MCP protocol error: Invalid tools/call params: {cause.message}"
  | .invalidArguments tool cause =>
    s!"MCP protocol error: Invalid arguments for {tool}: {cause.message}"

/-- Why a request is not carried out. -/
inductive RequestError where
  | protocol (cause : ProtocolError)
  | other (cause : Error)

namespace RequestError

/-- The wording of an error. -/
def message (w : Wording) : RequestError → String
  | protocol cause => cause.message
  | other cause => cause.message w

/-- The kind of failure that an error is reported as. -/
def code : RequestError → Code
  | protocol _ => .invalidParams
  | other _ => .internalError

end RequestError

/-- What a client says of itself when it begins. Only the version counts. -/
structure Greeting where
  version : String := ""

/-- How a greeting is given. -/
def Greeting.shape : Shape Greeting where
  name := "InitializeParams"
  fields := ["protocolVersion", "capabilities", "clientInfo"]
  required := ["protocolVersion"]
  atLeast := 1
  set := fun g key v =>
    match key with
    | "protocolVersion" => do return { g with version := ← Decoder.string v }
    | _ => .ok g

/-- The name of a tool and its arguments, undecoded. -/
structure CallParams where
  name : String := ""
  arguments : Value := .null

/-- How the parameters of a call are given. -/
def CallParams.shape : Shape CallParams where
  name := "ToolsCallParams"
  fields := ["name", "arguments"]
  required := ["name"]
  atLeast := 1
  set := fun p key v =>
    match key with
    | "name" => do return { p with name := ← Decoder.string v }
    | "arguments" => .ok { p with arguments := v }
    | _ => .ok p

/-- The version of the protocol that a client of a given version is answered in. -/
def answeredVersion (version : String) : String :=
  if "2024".toList.isPrefixOf version.toList || "2025".toList.isPrefixOf version.toList then
    "2024-11-05"
  else version

/-- The answer to a greeting. -/
def greet (params : Option Value) : Except ProtocolError Value := do
  let greeting ←
    (Greeting.shape.decode {} (params.getD (.object []))).mapError .invalidInitialize
  return .object
    [("capabilities", .object [("tools", .object [])]),
      ("protocolVersion", .string (answeredVersion greeting.version)),
      ("serverInfo", .object [("name", .string "bspec-graph"), ("version", .string "1.0.0")])]

/-- The call that parameters describe. No arguments are empty arguments. -/
def readCall (params : Option Value) : Except ProtocolError Call := do
  let some v := params | throw .missingParams
  let p ← (CallParams.shape.decode {} v).mapError .invalidParams
  let arguments := match p.arguments with
    | .null => .object []
    | v => v
  (Call.decode p.name arguments).mapError (.invalidArguments p.name)

/-- A server: the registry it answers from, and the words that it cites. -/
structure Server where
  registry : Registry
  wording : Wording

/-- The responses of a server, and what ended them before the input did. -/
structure Transcript where
  responses : List Response
  failure : Option Text.Utf8Error

namespace Server

/-- What a request with an id leads to at a moment. -/
def carryOut (s : Server) (now : Moment) (r : Request) : Except RequestError Outcome :=
  match r.method with
  | "initialize" => ((greet r.params).map .result).mapError .protocol
  | "tools/list" => .ok (.result (.object [("tools", .array Catalogue.all)]))
  | "tools/call" => do
    let call ← (readCall r.params).mapError .protocol
    return .result (call.run s.registry now).toJson
  | "shutdown" => .ok (.result .null)
  | method => .ok (.failure .methodNotFound s!"Unknown method: {method}")

/-- The response to a request, if it asks for one. -/
def respond (s : Server) (now : Moment) (r : Request) : Option Response :=
  r.id.map fun id =>
    match s.carryOut now r with
    | .ok outcome => ⟨id.toJson, outcome⟩
    | .error e => ⟨id.toJson, .failure e.code (e.message s.wording)⟩

/-- Whether a request says that the client is ready. -/
def announcesReady (r : Request) : Bool := r.id.isNone && r.method == "notifications/initialized"

/-- Processes a request, given whether the client has said that it is ready. Answers with the
response, if the request asks for one, and with whether the client has said so by now. -/
def process (s : Server) (now : Moment) (ready : Bool) (r : Request) : Option Response × Bool :=
  (s.respond now r, ready || announcesReady r)

/-- Processes a line. Blank lines are passed over. -/
def processLine (s : Server) (now : Moment) (ready : Bool) (line : String) :
    Option Response × Bool :=
  let text := Text.trim line
  if text.isEmpty then (none, ready)
  else
    match Request.read text with
    | .ok r => s.process now ready r
    | .error e =>
      let place := s.wording.jsonPlace Request.shape.name text
      let message := s!"Parse error: {e.message}{place}"
      (some ⟨recoverId text, .failure .parseError message⟩, ready)

/-- Processes a line given as bytes. -/
def processBytes (s : Server) (now : Moment) (ready : Bool) (line : List UInt8) :
    Except Text.Utf8Error (Option Response × Bool) :=
  (Text.decodeUtf8 line).map (s.processLine now ready)

/-- Answers lines one after another, each at a moment of its own: the first at `clock 0`. -/
def serveLines (s : Server) (clock : Nat → Moment) (ready : Bool) : List (List UInt8) → Transcript
  | [] => ⟨[], none⟩
  | line :: rest =>
    match s.processBytes (clock 0) ready line with
    | .error e => ⟨[], some e⟩
    | .ok (response, ready) =>
      let later := s.serveLines (fun i => clock (i + 1)) ready rest
      ⟨response.toList ++ later.responses, later.failure⟩

/-- Answers the lines of an input. -/
def serve (s : Server) (clock : Nat → Moment) (input : List UInt8) : Transcript :=
  s.serveLines clock false (Text.byteLines input)

end Server

end Dossier.Rpc
