import Dossier.Folder.Markdown
import Dossier.Frontmatter.Document

/-!
# Loading a folder

Every Markdown file of a folder is read as a document, except readmes without frontmatter. A file
that is no document is reported and does not keep the others from being read.
-/

namespace Dossier.Folder

/-- Why a file is no document. -/
inductive FileError where
  | notText
  | refused (cause : Error)

/-- The complaints about a file. -/
def FileError.messages (w : Wording) : FileError → List String
  | notText => ["stream did not contain valid UTF-8"]
  | refused (.invalidDocument _ faults) => faults.map FrontmatterFault.message
  | refused cause => [cause.message w]

/-- A file that is no document. -/
structure Failure where
  path : String
  cause : FileError

/-- What a file is read as. -/
inductive Entry where
  | skipped
  | document (doc : Document)
  | failure (f : Failure)

namespace Entry

/-- The document that a file is read as. -/
def document? : Entry → Option Document
  | document doc => some doc
  | _ => none

/-- The report of a file that is no document. -/
def failure? : Entry → Option Failure
  | failure f => some f
  | _ => none

end Entry

/-- Reads a file. -/
def File.read (taxonomy : Taxonomy) (f : File) : Entry :=
  match Text.decodeUtf8 f.content with
  | .error _ => .failure ⟨f.path, .notText⟩
  | .ok text =>
    if f.isReadme && (Frontmatter.split? text).isNone then .skipped
    else
      match Frontmatter.readDocument taxonomy f.path text with
      | .ok doc => .document doc
      | .error cause => .failure ⟨f.path, .refused cause⟩

/-- What a folder holds: its documents, and the files that are none. -/
structure Report where
  documents : List Document
  failures : List Failure

/-- Reads the Markdown files of a tree. -/
def Tree.load (taxonomy : Taxonomy) (t : Tree) : Report :=
  let entries := t.markdownFiles.map (File.read taxonomy)
  ⟨entries.filterMap Entry.document?, entries.filterMap Entry.failure?⟩

/-- Reads what stands at a path, if it is a folder. -/
def load (taxonomy : Taxonomy) (path : String) (place : Option Tree) : Except Error Report :=
  match place with
  | some t => if t.isFolder then .ok (t.load taxonomy) else .error (.notDirectory path)
  | none => .error (.notDirectory path)

end Dossier.Folder
