import Dossier.Decimal.Power
import Dossier.Text.Radix

/-!
# Arguments

The arguments of the program name a command, and may name the folder of documents before or after
it. An option is written with two hyphens and its name, or with one hyphen and a letter; its value
is the next argument or stands in the same one. After `--` every argument is taken as it is.
`read?` has no result for arguments that are misused.
-/

namespace Dossier.CommandLine

/-- What the program is asked to do with its documents. -/
inductive Command where
  | serve
  | graph
  | impact (id : String)
  | chains
  | query (options : String)
  | similar (id : String) (limit : Option Nat)
  | stats
  | validate
  | criticalPath
  | recommendations
  deriving DecidableEq, Repr

/-- What the program is asked to do. `docs` is the folder of documents, if the arguments name
one. -/
inductive Request where
  | run (docs : Option String) (command : Command)
  | version
  | help
  deriving DecidableEq, Repr

/-! ## Options -/

/-- An option. -/
inductive Switch where
  | docs
  | limit
  | version
  | help
  deriving DecidableEq, Repr

namespace Switch

/-- The option of a given name. -/
def ofName? : String → Option Switch
  | "docs" => some docs
  | "limit" => some limit
  | "version" => some version
  | "help" => some help
  | _ => none

/-- The option of a given letter. -/
def ofLetter? : Char → Option Switch
  | 'l' => some limit
  | 'V' => some version
  | 'h' => some help
  | _ => none

/-- Whether an option has a value. -/
def hasValue : Switch → Bool
  | docs | limit => true
  | version | help => false

end Switch

/-- What an argument is: a plain word, the mark after which all arguments are plain, an option,
possibly with its value, or none of these. -/
inductive Argument where
  | word (s : String)
  | mark
  | switch (s : Switch) (value : Option String)
  | misused
  deriving DecidableEq, Repr

namespace Argument

/-- The option that follows two hyphens, of those that are known. An option without a value must
not be given one. -/
def ofLong (known : List Switch) (cs : List Char) : Argument :=
  let name := cs.takeWhile (· != '=')
  match (Switch.ofName? (String.ofList name)).filter known.contains, cs.drop name.length with
  | some s, [] => .switch s none
  | some s, _ :: value => if s.hasValue then .switch s (some (String.ofList value)) else .misused
  | none, _ => .misused

/-- The option that follows one hyphen, of those that are known. What follows its letter is its
value, with or without an equals sign. Nothing is read after an option without a value. -/
def ofShort (known : List Switch) : List Char → Argument
  | [] => .word "-"
  | c :: cs =>
    match (Switch.ofLetter? c).filter known.contains with
    | none => .misused
    | some s =>
      if !s.hasValue then .switch s none
      else
        match cs with
        | [] => .switch s none
        | '=' :: value => .switch s (some (String.ofList value))
        | value => .switch s (some (String.ofList value))

/-- What an argument is, given the options that are known in its place. -/
def read (known : List Switch) (arg : String) : Argument :=
  match arg.toList with
  | ['-', '-'] => .mark
  | '-' :: '-' :: cs => ofLong known cs
  | '-' :: cs => ofShort known cs
  | _ => .word arg

end Argument

/-- Whether an argument may be the value of the option before it. -/
def isValue (arg : String) : Bool := arg == "-" || arg.toList.head? != some '-'

/-- The natural number of 64 bits that a text writes. -/
def readSize? (text : String) : Option Nat :=
  let digits := match text.toList with
    | '+' :: cs => cs
    | cs => cs
  (Text.readDigits? 10 digits).filter (· < Decimal.wordCount)

/-! ## Commands -/

/-- The values of options and the plain words among the arguments. -/
structure Given where
  docs : Option String := none
  limit : Option Nat := none
  words : List String := []
  deriving DecidableEq, Repr

namespace Given

/-- The given things with the value of an option, which must be its first. A folder has a name. -/
def set (g : Given) (s : Switch) (value : String) : Option Given :=
  match s, g with
  | .docs, { docs := none, .. } => if value.isEmpty then none else some { g with docs := value }
  | .limit, { limit := none, .. } => do return { g with limit := some (← readSize? value) }
  | _, _ => none

/-- The given things with one more plain word, if there is room for it. -/
def addWord (g : Given) (room : Nat) (word : String) : Option Given :=
  if g.words.length < room then some { g with words := g.words ++ [word] } else none

/-- The given things with more plain words. -/
def addWords (g : Given) (room : Nat) : List String → Option Given
  | [] => some g
  | word :: rest => do (← g.addWord room word).addWords room rest

end Given

/-- How a command is used: the options it knows, the number of plain words it takes at most, and
the command that things given make up. -/
structure Usage where
  switches : List Switch := [.docs, .help]
  room : Nat := 0
  command : Given → Option Command

namespace Usage

/-- A command that takes no words. -/
def plain (c : Command) : Usage where
  command := fun _ => some c

/-- How the command of a given name is used. -/
def ofName? : String → Option Usage
  | "serve" => some (plain .serve)
  | "graph" => some (plain .graph)
  | "impact" => some { room := 1, command := fun g => g.words.head?.map .impact }
  | "chains" => some (plain .chains)
  | "query" =>
    some { room := 1, command := fun g => some (.query (g.words.head?.getD "\x7b\x7d")) }
  | "similar" =>
    some
      { switches := [.docs, .limit, .help], room := 1
        command := fun g => g.words.head?.map fun id => .similar id g.limit }
  | "stats" => some (plain .stats)
  | "validate" => some (plain .validate)
  | "critical-path" => some (plain .criticalPath)
  | "recommendations" => some (plain .recommendations)
  | _ => none

end Usage

/-! ## Reading -/

/-- Reads the arguments after the name of a command. A folder that is named here counts before one
that is named in front of the command. -/
def readCommand (usage : Usage) (docs : Option String) (g : Given) : List String → Option Request
  | [] => do return .run (g.docs.or docs) (← usage.command g)
  | arg :: rest =>
    match Argument.read usage.switches arg with
    | .misused => none
    | .mark => do
      let g ← g.addWords usage.room rest
      return .run (g.docs.or docs) (← usage.command g)
    | .word s => do readCommand usage docs (← g.addWord usage.room s) rest
    | .switch .help _ => some .help
    | .switch s (some value) => do readCommand usage docs (← g.set s value) rest
    | .switch s none =>
      match rest with
      | [] => none
      | value :: rest =>
        if isValue value then do readCommand usage docs (← g.set s value) rest else none

/-- Whether an argument is the name of something that there is help on. -/
def isCommand (arg : String) : Bool := arg == "help" || (Usage.ofName? arg).isSome

/-- Reads the arguments from the start. -/
def readFrom (g : Given) : List String → Option Request
  | [] => none
  | arg :: rest =>
    match Argument.read [.docs, .version, .help] arg with
    | .misused | .mark => none
    | .word "help" => if rest.length ≤ 1 && rest.all isCommand then some .help else none
    | .word name => do readCommand (← Usage.ofName? name) g.docs {} rest
    | .switch .version _ => some .version
    | .switch .help _ => some .help
    | .switch s (some value) => do readFrom (← g.set s value) rest
    | .switch s none =>
      match rest with
      | [] => none
      | value :: rest => if isValue value then do readFrom (← g.set s value) rest else none

/-- What arguments ask for. -/
def read? (args : List String) : Option Request := readFrom {} args

end Dossier.CommandLine
