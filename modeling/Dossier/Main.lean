import Dossier.CommandLine.Run
import Std.Time.DateTime

/-!
# The program

Reads files, variables, the clock and the input, and writes what comes of it. All else is done by
`CommandLine.run` and `Server.processBytes`.
-/

namespace Dossier

/-- What stands at a path, unless it is one of the folders `above` it. What cannot be read is left
out. -/
partial def treeAt (above : List String) (path : String) : IO (Option Folder.Tree) := do
  try
    let place ← IO.FS.realPath path
    if above.contains place.toString then return none
    if ← place.isDir then
      let mut entries := #[]
      for entry in ← place.readDir do
        if let some t ← treeAt (place.toString :: above) entry.path.toString then
          entries := entries.push (entry.fileName, t)
      return some (.folder entries.toList)
    return some (.file (← IO.FS.readBinFile place).toList)
  catch _ => return none

/-- The machine that the program runs on. -/
def machine : Host IO := ⟨treeAt [], fun name => IO.getEnv name⟩

/-- The current day, of the coordinated universal time. -/
def currentDay : IO Date := do
  let date := Std.Time.PlainDate.ofEpochDay (← Std.Time.Timestamp.now).toDaysSinceUnixEpoch
  match Date.of? date.year.toInt date.month.toNat date.day.toNat with
  | some day => return day
  | none => throw (IO.userError "the clock shows no day of the calendar")

/-- The next line of the input, of which the bytes `line` are read already and kept reversed. -/
partial def nextLine (input : IO.FS.Stream) (line : List UInt8) : IO (List UInt8) := do
  match (← input.read 1)[0]? with
  | none => return line.reverse
  | some b => if b == 10 then return (b :: line).reverse else nextLine input (b :: line)

/-- What the clocks show: the day, and the milliseconds that an answer takes, which is made once to
take the time. `weight` looks at all of it. -/
def momentOf {α : Type} (answer : Rpc.Moment → α) (weight : α → Nat) : IO Rpc.Moment := do
  let today ← currentDay
  let start ← IO.monoMsNow
  let size := weight (answer ⟨today, 0⟩)
  if size == 0 then return ⟨today, 0⟩
  return ⟨today, (← IO.monoMsNow) - start⟩

/-- The words of libraries that are not at hand are left out. -/
def silent : Wording := ⟨fun _ _ => "", fun _ => ""⟩

/-- A response on its line, or nothing. -/
def responseLines (response : Option Rpc.Response) : String :=
  String.join (response.toList.map CommandLine.Outcome.responseLine)

/-- Answers the lines of the input as they come. -/
partial def answerLines (server : Rpc.Server) (ready : Bool) (input output : IO.FS.Stream) :
    IO CommandLine.Outcome := do
  let line ← nextLine input []
  if line.isEmpty then return {}
  let now ← momentOf (server.processBytes · ready line) fun answer =>
    (answer.toOption.map fun (response, _) => (responseLines response).length).getD 0
  match server.processBytes now ready line with
  | .error e => return .ofFailure silent (.brokenInput e)
  | .ok (response, ready) =>
    output.putStr (responseLines response)
    output.flush
    answerLines server ready input output

end Dossier

/-- Runs the program with its arguments. -/
def main (args : List String) : IO UInt32 := do
  let answer ← Dossier.CommandLine.run Dossier.silent Dossier.machine args
  let now ← Dossier.momentOf answer fun
    | .done o => o.output.length
    | .serve _ => 0
  let outcome ← match answer now with
    | .done o => pure o
    | .serve server => Dossier.answerLines server false (← IO.getStdin) (← IO.getStdout)
  IO.print outcome.output
  IO.eprint outcome.complaint
  return UInt32.ofNat outcome.status
