/-
A tree of files and directories in memory. Adding a file or a directory adds all the directories
above it; removing a file leaves them. Paths are compared by components.
-/
import CSharpBuild.Path

namespace CSharpBuild.Doubles

/-- The files and the directories of a tree, each by its components. -/
structure FileTree where
  files : List (List Path.Component)
  dirs : List (List Path.Component)
  deriving DecidableEq, Repr

namespace FileTree

/-- Nothing at all. -/
def empty : FileTree := ⟨[], []⟩

/-- Add a value to a list that does not have it. -/
def insertNew {α : Type} [DecidableEq α] (value : α) (values : List α) : List α :=
  if value ∈ values then values else value :: values

/-- The place whose components are given from the last one to the first, then all places above it.
The empty path comes last. -/
def upward : List Path.Component → List (List Path.Component)
  | [] => [[]]
  | last :: above => (last :: above).reverse :: upward above

/-- The way up from a place, as far as the empty path. -/
def lineage (components : List Path.Component) : List (List Path.Component) :=
  (upward components.reverse).takeWhile (· ≠ [])

/-- Add a directory, given by its components, and all directories above it. -/
def addDirAt (t : FileTree) (components : List Path.Component) : FileTree :=
  { t with dirs := (lineage components).foldl (fun dirs place => insertNew place dirs) t.dirs }

/-- Add a directory and all directories above it. -/
def addDir (t : FileTree) (path : Path) : FileTree := t.addDirAt path.components

/-- Add a file and all directories above it. -/
def addFile (t : FileTree) (path : Path) : FileTree :=
  let t := t.addDirAt path.components.dropLast
  { t with files := insertNew path.components t.files }

/-- Whether there is a file at a path. -/
def isFile (t : FileTree) (path : Path) : Bool := path.components ∈ t.files

/-- Whether there is a directory at a path. -/
def isDir (t : FileTree) (path : Path) : Bool := path.components ∈ t.dirs

/-- Remove a file, or say that there is none. -/
def removeFile (t : FileTree) (path : Path) : Except String FileTree :=
  if t.isFile path then .ok { t with files := t.files.filter (· ≠ path.components) }
  else .error ("file not found: " ++ path.text)

end FileTree

end CSharpBuild.Doubles
