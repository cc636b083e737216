/-
Looking for installed programs on a machine: `Machine.findProgram?` looks a name up on the search
path, and `Machine.findMono?` finds a Mono installation, which the environment may name.
-/
import CSharpBuild.Machine.Basic
import CSharpBuild.Mono

namespace CSharpBuild.Machine

open Text

/-- A path seen from the root. An absolute path stays as it is written; another one loses what does
not count in a path. -/
def absolute (m : Machine) (path : Path) : Path :=
  if path.isAbsolute then path
  else .ofComponents ((Place.path m.cwd).components ++ path.components.filter (· ≠ .here))

/-- A directory of a search path, where `~` in front stands for the home directory. -/
def searchDirectory (m : Machine) (entry : String) : Path :=
  let path : Path := ⟨entry⟩
  match path.components with
  | .name "~" :: rest => rest.foldl (fun dir part => dir.join ⟨part.text⟩) m.home
  | _ => path

/-- Where the program of a name may be, in the order in which to look: a name with a directory in it
is seen from the working directory, any other from the directories of the search path. -/
def programPlaces (m : Machine) (name : String) : List Path :=
  let path : Path := ⟨name⟩
  if path.components.length > 1 then [m.absolute path]
  else
    match m.valueOf? "PATH" with
    | none => []
    | some searchPath =>
      (Launch.directories searchPath).map fun entry => (m.searchDirectory entry).join path

/-- Whether a path leads to a regular file that may be executed. -/
def isProgram (m : Machine) (path : Path) : Bool :=
  match m.disk.find m.cwd (Octets.ofText path.text) with
  | .ok node => node.isExecutable
  | .error _ => false

/-- The absolute path of the program of a name. -/
def findProgram? (m : Machine) (name : String) : Option Path :=
  ((m.programPlaces name).find? m.isProgram).map m.absolute

/-- The Mono installation of a machine, and what the log says of it: the one that `MONO_PREFIX`
names, else the one whose `bin` directory has the compiler that is first on the search path. -/
def findMono? (m : Machine) : Option Mono × List LogEntry :=
  match (m.valueOf? "MONO_PREFIX").filter (!·.isEmpty) with
  | some root => (some (.single ⟨root⟩), [.debug ("using MONO_PREFIX=" ++ root)])
  | none =>
    match m.findProgram? "mcs" with
    | none => (none, [])
    | some mcs =>
      match mcs.parent? >>= Path.parent? with
      | none => (none, [])
      | some root => (some (.single root), [.debug ("found mcs at " ++ mcs.text)])

end CSharpBuild.Machine
