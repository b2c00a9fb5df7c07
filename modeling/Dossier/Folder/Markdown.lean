import Dossier.Folder.Tree

/-!
# Markdown files of a folder

A file is Markdown if its name has the extension `md`, in capitals or not. The Markdown files of a
folder are listed by their paths, in ascending order.
-/

namespace Dossier.Folder

/-- What follows the last dot of a name, unless the name has no dot but at its start. -/
def extension? (name : String) : Option String :=
  match name.toList.reverse.span (· != '.') with
  | (_, []) | (_, [_]) => none
  | (after, _) => some (String.ofList after.reverse)

namespace File

/-- The name of a file. -/
def name (f : File) : String := f.names.getLast?.getD ""

/-- The path of a file, whose parts stand between slashes. A backslash in a name counts as a
slash. -/
def path (f : File) : String :=
  String.ofList (("/".intercalate f.names).toList.map fun c => if c == '\\' then '/' else c)

/-- Whether a file is Markdown. Only the letters of ASCII have capitals here. -/
def isMarkdown (f : File) : Bool := (extension? f.name).any fun e => e.toLower == "md"

/-- Whether a file is a readme. -/
def isReadme (f : File) : Bool := f.name.toLower == "readme.md"

end File

/-- The Markdown files of a folder. -/
def Tree.markdownFiles (t : Tree) : List File :=
  (t.files.filter File.isMarkdown).mergeSort (·.path ≤ ·.path)

end Dossier.Folder
