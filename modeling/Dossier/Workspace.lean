import Dossier.Folder.Load
import Dossier.Registry
import Dossier.Settings.Basic
import Dossier.Settings.Environment
import Dossier.Toml.Reader

/-!
# Workspaces

A workspace is a folder of documents with the settings it is worked on. It is opened on a host,
which shows what stands at a path; its settings come from a file, or are the usual ones for a given
folder. Opening fails if the settings cannot be used, so that a workspace always has a taxonomy and
a folder.
-/

namespace Dossier

/-- What a program sees of its surroundings: what stands at a path, and the variables of its
environment. -/
structure Host (m : Type → Type) where
  look : String → m (Option Folder.Tree)
  getVariable : String → m (Option String)

/-- A folder of documents, the settings it is worked on, and the taxonomy that they describe. -/
structure Workspace where
  settings : Settings
  taxonomy : Taxonomy
  docs : Folder.Tree

namespace Settings

/-- The text of what stands at a path. -/
def readText : Option Folder.Tree → Except ReadError String
  | none => .error .missing
  | some (.folder _) => .error .isFolder
  | some (.file content) => (Text.decodeUtf8 content).mapError fun _ => .notText

/-- The settings that the file at a path gives. -/
def ofFile (path : String) (place : Option Folder.Tree) : Except SettingsError Settings := do
  let text ← (readText place).mapError (.unreadable path)
  match (Toml.read? text).map ofValue with
  | some (.ok s) => return s
  | _ => throw (.malformed path)

/-- The workspace of given settings, given what stands at the path of their folder. -/
def workspace (s : Settings) (place : Option Folder.Tree) : Except SettingsError Workspace :=
  match place with
  | none => .error (.folderMissing s.docsFolder)
  | some docs =>
    if !docs.isFolder then .error (.folderIsFile s.docsFolder)
    else if s.similarLimit == 0 then .error .noSimilarDocuments
    else do
      let taxonomy ← (Taxonomy.ofSettings s.taxonomy).mapError .invalidTaxonomy
      return ⟨s, taxonomy, docs⟩

end Settings

namespace Workspace

/-- The documents of a workspace as a registry. -/
def registry (w : Workspace) : Registry where
  collection := .ofList (w.docs.load w.taxonomy).documents
  taxonomy := w.taxonomy
  suggestionThreshold := w.settings.suggestionThreshold
  similarLimit := w.settings.similarLimit

variable {m : Type → Type} [Monad m]

/-- Opens the workspace of given settings. -/
def openWith (host : Host m) (s : Settings) : m (Except SettingsError Workspace) := do
  return s.workspace (← host.look s.docsFolder)

/-- Opens the workspace whose settings are in the file at a path. -/
def openFile (host : Host m) (path : String) : m (Except SettingsError Workspace) := do
  match Settings.ofFile path (← host.look path) with
  | .ok s => openWith host s
  | .error e => return .error e

/-- Opens the workspace of a folder with the usual settings. -/
def openFolder (host : Host m) (path : String) : m (Except SettingsError Workspace) :=
  openWith host (.forFolder path)

/-- The path of the file with the settings. The environment may name it, and an environment file
may. -/
def settingsPath (host : Host m) : m String := do
  let vs : Environment.Variables m := ⟨host.getVariable, []⟩
  let vs ← match ← host.look ".env" with
    | some (.file content) => vs.load content
    | _ => pure vs
  return (← vs.get? "BSPEC_CONFIG").getD "config.toml"

/-- Opens the workspace whose settings are in the usual place. -/
def openUsual (host : Host m) : m (Except SettingsError Workspace) := do
  openFile host (← settingsPath host)

end Workspace

end Dossier
