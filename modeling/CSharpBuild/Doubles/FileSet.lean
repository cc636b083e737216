/-
A file set in memory, which answers probes without a disk. Paths are compared by components. A file
may be set to expire: it is then found a given number of times more and vanishes at the next look.
-/
import CSharpBuild.Host
import CSharpBuild.Text

namespace CSharpBuild.Doubles

/-- The files that are there, and for some paths how many more times a look will find them. -/
structure FileSet where
  files : List (List Path.Component)
  fuses : List (List Path.Component × Nat)
  deriving DecidableEq, Repr

namespace FileSet

/-- No files. -/
def empty : FileSet := ⟨[], []⟩

/-- Whether there is a file at a path. -/
def holds (s : FileSet) (path : Path) : Bool := s.files.contains path.components

/-- Put a file at a path. An expiry of that path is cancelled. -/
def add (s : FileSet) (path : Path) : FileSet where
  files := if s.holds path then s.files else path.components :: s.files
  fuses := s.fuses.filter (·.1 ≠ path.components)

/-- The file set with these files. -/
def ofPaths (paths : List Path) : FileSet := paths.foldl add empty

/-- Take the file at a path away. An expiry of that path stays. -/
def remove (s : FileSet) (path : Path) : FileSet :=
  { s with files := s.files.filter (· ≠ path.components) }

/-- Let the file at a path be found `count` more times. -/
def expire (s : FileSet) (path : Path) (count : Nat) : FileSet :=
  { s with fuses := (path.components, count) :: s.fuses.filter (·.1 ≠ path.components) }

/-- Look for a file: whether it is found, and what is left afterwards. -/
def look (s : FileSet) (path : Path) : Bool × FileSet :=
  if s.holds path then
    match s.fuses.lookup path.components with
    | none => (true, s)
    | some 0 => (false, s.remove path)
    | some (count + 1) => (true, s.expire path count)
  else (false, s)

end FileSet

/-- A rule of a scripted runner: what is answered to a command whose line contains a piece. -/
structure Rule where
  piece : String
  answer : Except String Output

/-- The answer of the first rule that fits. -/
def answerBy (rules : List Rule) (command : Command) : Except String Output :=
  match rules.find? fun rule => Text.contains command.line rule.piece with
  | some rule => rule.answer
  | none => .error ("no rule for " ++ command.program.text)

/-- A host with a file set, a fixed default command and a scripted runner. -/
def FileSet.host (default : Except Failure Command) (rules : List Rule) : Host FileSet where
  probe path s := ⟨(s.look path).1, [], (s.look path).2⟩
  defaultCommand s := ⟨default, [], s⟩
  run command s := ⟨answerBy rules command, [], s⟩

end CSharpBuild.Doubles
