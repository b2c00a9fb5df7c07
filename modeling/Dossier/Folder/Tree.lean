/-!
# File trees

A file tree is a file, or a folder of trees that have names. A path is a text of parts between
slashes. It leads from a folder to a tree in it; only folders can be passed through.
-/

namespace Dossier.Folder

/-- A file with its bytes, or a folder with its entries. -/
inductive Tree where
  | file (content : List UInt8)
  | folder (entries : List (String × Tree))
  deriving Inhabited

/-- A file in a folder: the names that lead to it, and its bytes. -/
structure File where
  names : List String
  content : List UInt8
  deriving DecidableEq, Repr

namespace Tree

/-- Whether a tree is a folder. -/
def isFolder : Tree → Bool
  | file _ => false
  | folder _ => true

mutual

/-- The files of a tree. -/
def files : Tree → List File
  | .file content => [⟨[], content⟩]
  | .folder entries => filesOf entries

/-- The files of the entries of a folder. -/
def filesOf : List (String × Tree) → List File
  | [] => []
  | (name, t) :: rest => (t.files.map fun f => { f with names := name :: f.names }) ++ filesOf rest

end

/-- The tree that the parts of a path lead to from a tree that lies in the trees `above`, the
nearest first. A part may be a name, stand for the folder itself, or lead out of it. -/
def follow (above : List Tree) (here : Tree) : List String → Option Tree
  | [] => some here
  | part :: rest =>
    match here with
    | .file _ => none
    | .folder entries =>
      match part, above with
      | "", _ | ".", _ => follow above here rest
      | "..", [] => none
      | "..", outer :: above => follow above outer rest
      | name, _ => (entries.lookup name).bind fun t => follow (here :: above) t rest

/-- The tree that a path leads to. No path is empty. -/
def at? (t : Tree) (path : String) : Option Tree :=
  if path.isEmpty then none else t.follow [] (path.splitOn "/")

/-- The entries of a folder with one of them set. -/
def setEntry (name : String) (t : Tree) : List (String × Tree) → List (String × Tree)
  | [] => [(name, t)]
  | (n, u) :: rest => if n == name then (name, t) :: rest else (n, u) :: setEntry name t rest

/-- The folder `here` with a tree put at the end of a path of names. Folders on the way are made
where there are none. -/
def put (here : Tree) (t : Tree) : List String → Tree
  | [] => t
  | name :: rest =>
    let entries := match here with
      | .file _ => []
      | .folder entries => entries
    let inner := (entries.lookup name).getD (.folder [])
    .folder (setEntry name (inner.put t rest) entries)

end Tree

end Dossier.Folder
