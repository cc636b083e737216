/-
A small machine: a disk, a working directory and an environment. `Machine.fresh` is one with nothing
but its installed programs and an empty working directory; `write`, `makeDirectory`, `remove` and
`link` change its disk. Paths are text here, and octets on the disk.
-/
import CSharpBuild.Log
import CSharpBuild.Machine.Shell

namespace CSharpBuild

/-- A machine as a process on it sees it. -/
structure Machine where
  disk : Machine.Disk
  cwd : Machine.Place
  environment : List (String × String)
  processId : Nat

namespace Machine

open Text

/-- The directories of every disk. -/
def usualDirectories : List Place :=
  [["usr"], ["usr", "bin"], ["usr", "sbin"], ["usr", "lib"], ["usr", "local"],
    ["usr", "local", "bin"], ["usr", "local", "sbin"], ["usr", "share"], ["dev"], ["etc"],
    ["home"], ["media"], ["mnt"], ["opt"], ["proc"], ["root"], ["run"], ["srv"], ["sys"], ["tmp"],
    ["var"], ["var", "tmp"]]

/-- The links and devices of every disk. -/
def usualNodes : List (Place × Node) :=
  [(["bin"], .link "usr/bin"), (["sbin"], .link "usr/sbin"), (["lib"], .link "usr/lib"),
    (["dev", "null"], .sink), (["dev", "zero"], .zeros), (["dev", "stdin"], .stream 0),
    (["dev", "stdout"], .stream 1), (["dev", "stderr"], .stream 2)]

/-- A disk with programs and an empty directory `cwd`. -/
def freshDisk (cwd : Place) : Disk :=
  let programs := Toolbox.names.map fun name => (["usr", "bin", name], Node.program name)
  ⟨programs ++ (usualDirectories ++ [cwd]).map (fun place => (place, Node.directory))
    ++ usualNodes⟩

/-- A machine with an empty working directory. Its home directory is below that one. -/
def fresh (processId : Nat) : Machine :=
  let cwd := ["tmp", "work"]
  ⟨freshDisk cwd, cwd,
    [("HOME", "home"), ("PATH", "/usr/local/sbin:/usr/local/bin:/usr/sbin:/usr/bin:/sbin:/bin")],
    processId⟩

/-- The value of a variable of the environment. -/
def valueOf? (m : Machine) (name : String) : Option String := m.environment.lookup name

/-- Set or unset a variable of the environment. -/
def withVariable (m : Machine) (name : String) (value : Option String) : Machine :=
  let others := m.environment.filter (·.1 ≠ name)
  { m with environment := (value.map fun text => (name, text)).toList ++ others }

/-- The home directory. -/
def home (m : Machine) : Path := ⟨(m.valueOf? "HOME").getD ""⟩

/-- Keep a change of the disk, unless it ran into trouble. -/
def onDisk (m : Machine) (change : Disk → Except Trouble Disk) : Machine :=
  { m with disk := (change m.disk).toOption.getD m.disk }

/-- Write a file, with the directories above it. -/
def write (m : Machine) (path : Path) (bytes : List UInt8) (executable : Bool) : Machine :=
  m.onDisk fun d =>
    d.place true m.cwd (Octets.ofText path.text) (.file (Octets.ofBytes bytes) executable)

/-- Make a directory, with those above it. -/
def makeDirectory (m : Machine) (path : Path) : Machine :=
  let octets := Octets.ofText path.text
  m.onDisk fun d => (d.makeDirectories (Disk.startOf m.cwd octets) (Disk.names octets)).map Prod.fst

/-- Remove a file, a link, or a directory with all that is in it. -/
def remove (m : Machine) (path : Path) : Machine :=
  m.onDisk fun d => d.discard m.cwd (Octets.ofText path.text)

/-- Make a link, with the directories above it. -/
def link (m : Machine) (path : Path) (target : String) : Machine :=
  m.onDisk fun d => d.place false m.cwd (Octets.ofText path.text) (.link (Octets.ofText target))

/-- Whether a path leads to anything. -/
def holds (m : Machine) (path : Path) : Bool := m.disk.exists? m.cwd (Octets.ofText path.text)

/-- Whether a path leads to a regular file. -/
def isFile (m : Machine) (path : Path) : Bool := m.disk.isFile m.cwd (Octets.ofText path.text)

/-- What the log says of a look at a path: something only if it ran into trouble other than that
there is nothing. -/
def probeEntries (m : Machine) (path : Path) : List LogEntry :=
  match m.disk.find m.cwd (Octets.ofText path.text) with
  | .ok _ | .error .missing => []
  | .error trouble => [.debug ("treating " ++ path.text ++ " as missing: " ++ trouble.text)]

end Machine

end CSharpBuild
