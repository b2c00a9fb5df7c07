import Dossier.Text.Blank
import Dossier.Toml.Line

/-!
# Reading TOML text

The value of a text is the table that its lines make up, one after another. Settings belong to the
table of the last header before them.
-/

namespace Dossier.Toml

open Json (Value)

/-- The table so far, and the path of the last header. -/
structure State where
  root : Entries := []
  path : List String := []

/-- Applies a change to the last key of a path. -/
def State.atEnd (s : State) (change : String → Entries → Option Entries) (path : List String) :
    Option State := do
  let key ← path.getLast?
  return ⟨← Entries.within (change key) path.dropLast s.root, path⟩

/-- Does what a line says. -/
def State.obey (s : State) : Line → Option State
  | .table path => s.atEnd Entries.openTable path
  | .element path => s.atEnd Entries.addTable path
  | .setting path v => do
    return { s with root := ← Entries.within (Entries.set v path) s.path s.root }

/-- The value of a text, if it is TOML. The members of its objects are in ascending order of their
keys. -/
def read? (text : String) : Option Value := do
  let lines ← readLines (tokens (Text.dropMark text.toList))
  let s ← lines.foldlM State.obey {}
  return s.root.toValue

end Dossier.Toml
