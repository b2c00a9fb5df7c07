import Dossier.CommandLine.Arguments
import Dossier.Rpc.Server
import Dossier.Workspace

/-!
# Running a command

A command prints its answer as JSON, or begins to serve requests. The program ends with status 0,
with 1 if the command fails or finds the collection invalid, and with 2 if its arguments are
misused.
-/

namespace Dossier.CommandLine

open Json

/-- Why a command fails. -/
inductive Failure where
  | unusable (cause : SettingsError)
  | invalidOptions (text : String) (cause : DecodeError)
  | notFound (id : String)
  | brokenInput (cause : Text.Utf8Error)

namespace Failure

variable (w : Wording)

/-- The wording of a failure. -/
def message : Failure → String
  | unusable cause => cause.message
  | invalidOptions .. => "Query options must be a JSON object of camelCase filters"
  | notFound id => (Error.documentNotFound id).message w
  | brokenInput cause => (Error.notUtf8 cause).message w

/-- What a failure comes from, in words. -/
def causes : Failure → List String
  | unusable cause => cause.causes
  | invalidOptions text cause => [cause.message ++ w.jsonPlace Query.Options.recordName text]
  | notFound _ | brokenInput _ => []

/-- A failure as it is reported. -/
def report (f : Failure) : String :=
  let causes := (f.causes w).map fun cause => s!"\n    {cause}"
  s!"Error: {f.message w}" ++
    (if causes.isEmpty then "" else "\n\nCaused by:" ++ String.join causes) ++ "\n"

end Failure

/-- What the program leaves behind when it ends. -/
structure Outcome where
  status : Nat := 0
  output : String := ""
  complaint : String := ""
  deriving DecidableEq, Repr

namespace Outcome

/-- Prints a value. -/
def print (v : Value) : Outcome := { output := v.pretty ++ "\n" }

/-- Reports a failure. -/
def ofFailure (w : Wording) (f : Failure) : Outcome := { status := 1, complaint := f.report w }

/-- A response on its line. -/
def responseLine (r : Rpc.Response) : String := r.toJson.compact ++ "\n"

/-- Prints the responses of a server. -/
def ofTranscript (w : Wording) (t : Rpc.Transcript) : Outcome :=
  let output := String.join (t.responses.map responseLine)
  match t.failure with
  | none => { output := output }
  | some e => { ofFailure w (.brokenInput e) with output := output }

/-- The answer to arguments that are misused. -/
def misused : Outcome where
  status := 2
  complaint := "error: the arguments are misused\n\nFor more information, try '--help'.\n"

/-- The version of the program. -/
def version : Outcome := { output := "bspec 1.0.0\n" }

/-- The commands of the program. -/
def help : Outcome where
  output :=
    "Usage: bspec [--docs FOLDER] COMMAND\n\n" ++
    "Commands: serve, graph, impact ID, chains, query [OPTIONS], similar ID [--limit N], " ++
    "stats,\n" ++
    "validate, critical-path, recommendations\n"

end Outcome

/-- What running a command comes to: an outcome, or a server that is to answer the input. -/
inductive Answer where
  | done (o : Outcome)
  | serve (s : Rpc.Server)

/-- The outcome of an answer, given the input and the moments at which its lines are answered. -/
def Answer.outcome (clock : Nat → Rpc.Moment) (input : List UInt8) : Answer → Outcome
  | done o => o
  | serve s => .ofTranscript s.wording (s.serve clock input)

/-- Answers a command from a registry at a moment. -/
def Command.answer (w : Wording) (r : Registry) (now : Rpc.Moment) : Command → Answer
  | serve => .serve ⟨r, w⟩
  | graph => .done (.print (Graph.ofList r.taxonomy r.documents).toJson)
  | impact id => .done (.print (Impact.of r.documents id).toJson)
  | chains => .done (.print (.array ((Chain.find r.documents).map Chain.toJson)))
  | query text =>
    match Query.Options.read text with
    | .ok options => .done (.print (Query.run r options now.milliseconds).toJson)
    | .error cause => .done (.ofFailure w (.invalidOptions text cause))
  | similar id limit =>
    if r.collection.contains id then
      .done (.print (.array ((Query.similar r id (limit.getD r.similarLimit)).map
        Query.Similar.toJson)))
    else .done (.ofFailure w (.notFound id))
  | stats => .done (.print (Query.statistics r now.today).toJson)
  | validate =>
    let report := Validation.validateCollection r.taxonomy r.collection
    .done { Outcome.print report.toJson with status := if report.isValid then 0 else 1 }
  | criticalPath => .done (.print (CriticalPath.of r.taxonomy r.documents).toJson)
  | recommendations => .done (.print (Query.recommend r).toJson)

/-- Runs the program on a host. What it answers depends on the moment at which it does so. -/
def run {m : Type → Type} [Monad m] (w : Wording) (host : Host m) (args : List String) :
    m (Rpc.Moment → Answer) := do
  match read? args with
  | none => return fun _ => .done .misused
  | some .version => return fun _ => .done .version
  | some .help => return fun _ => .done .help
  | some (.run docs command) =>
    let opened ← match docs with
      | some path => Workspace.openFolder host path
      | none => Workspace.openUsual host
    match opened with
    | .error cause => return fun _ => .done (.ofFailure w (.unusable cause))
    | .ok workspace => return fun now => command.answer w workspace.registry now

end Dossier.CommandLine
