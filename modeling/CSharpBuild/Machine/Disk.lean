/-
The disk of a machine: files, directories and symbolic links, each at its place below the root. A
disk knows bytes only, so that names, paths and contents are octets here.

A path is found by walking it name by name from a starting place (`Disk.walk`). `..` goes up from
where the walk is, a link is replaced by what it points to, and a name after something that is not a
directory stops the walk, also the empty name that a separator at the end leaves. `Trouble` is what
a walk or an access can run into.
-/
import CSharpBuild.Path

namespace CSharpBuild.Machine

/-- A place on a disk: the names on the way down from the root. -/
abbrev Place := List String

/-- The path of a place. -/
def Place.path (place : Place) : Path := ⟨"/" ++ "/".intercalate place⟩

/-- What may stand at a place. -/
inductive Node where
  | file (content : String) (executable : Bool)
  | directory
  | link (target : String)
  /-- An installed program, known by its name. -/
  | program (name : String)
  /-- A device that takes everything and gives nothing. -/
  | sink
  /-- A device that takes everything and gives zeros without end. -/
  | zeros
  /-- A device that is a stream of whoever opens it. -/
  | stream (number : Nat)
  deriving Repr, DecidableEq

/-- Whether something is a regular file. -/
def Node.isFile : Node → Bool
  | .file .. | .program _ => true
  | _ => false

/-- Whether something is a regular file that may be executed. -/
def Node.isExecutable : Node → Bool
  | .file _ executable => executable
  | .program _ => true
  | _ => false

/-- Whether something is a symbolic link. -/
def Node.isLink : Node → Bool
  | .link _ => true
  | _ => false

/-- Why a path does not lead anywhere, or not to something of use. -/
inductive Trouble where
  | missing
  | notDirectory
  | isDirectory
  | nameTooLong
  | tooManyLinks
  | nulByte
  | alreadyThere
  | notEmpty
  | denied
  deriving Repr, DecidableEq

namespace Trouble

/-- The words for a trouble. -/
def words : Trouble → String
  | .missing => "No such file or directory"
  | .notDirectory => "Not a directory"
  | .isDirectory => "Is a directory"
  | .nameTooLong => "File name too long"
  | .tooManyLinks => "Too many levels of symbolic links"
  | .nulByte => "file name contained an unexpected NUL byte"
  | .alreadyThere => "File exists"
  | .notEmpty => "Directory not empty"
  | .denied => "Permission denied"

/-- The number that the system has for a trouble. A path with a NUL character does not get as far as
the system. -/
def number? : Trouble → Option Nat
  | .missing => some 2
  | .denied => some 13
  | .alreadyThere => some 17
  | .notDirectory => some 20
  | .isDirectory => some 21
  | .nameTooLong => some 36
  | .notEmpty => some 39
  | .tooManyLinks => some 40
  | .nulByte => none

/-- A trouble in words, with its number. -/
def text (t : Trouble) : String :=
  match t.number? with
  | some number => t.words ++ " (os error " ++ toString number ++ ")"
  | none => t.words

end Trouble

/-- What stands at which place. There is always a directory at the root. -/
structure Disk where
  nodes : List (Place × Node)
  deriving Repr

namespace Disk

/-- What stands at a place. -/
def get? (d : Disk) (place : Place) : Option Node :=
  if place = [] then some .directory else d.nodes.lookup place

/-- Put something at a place, over what stands there. -/
def put (d : Disk) (place : Place) (node : Node) : Disk :=
  ⟨(place, node) :: d.nodes.filter (·.1 ≠ place)⟩

/-- Remove what stands at a place and everything below it. -/
def erase (d : Disk) (place : Place) : Disk :=
  ⟨d.nodes.filter fun entry => !place.isPrefixOf entry.1⟩

/-! ## Walking -/

/-- The longest name, in bytes. -/
def nameLimit : Nat := 255

/-- The longest path, in bytes. -/
def pathLimit : Nat := 4095

/-- How many links one walk may follow. -/
def linkLimit : Nat := 40

/-- The names of a path, between its separators. -/
def names (path : String) : List String := (Path.pieces ⟨path⟩).map String.ofList

/-- Where a path starts: at the root, or at `origin`. -/
def startOf (origin : Place) (path : String) : Place :=
  if Path.isAbsolute ⟨path⟩ then [] else origin

/-- How to treat the last name of a path. -/
structure Manner where
  /-- Whether a link there is followed. -/
  follow : Bool
  /-- Whether there may be nothing. -/
  create : Bool

/-- Walk names from a place, with `links` more links to follow. -/
def walk (d : Disk) (manner : Manner) (links : Nat) (place : Place) :
    List String → Except Trouble Place
  | [] => .ok place
  | name :: rest =>
    if d.get? place ≠ some .directory then .error .notDirectory
    else if name = "" ∨ name = "." then d.walk manner links place rest
    else if name = ".." then d.walk manner links place.dropLast rest
    else if name.length > nameLimit then .error .nameTooLong
    else
      match d.get? (place ++ [name]) with
      | none => if rest = [] ∧ manner.create then .ok (place ++ [name]) else .error .missing
      | some (.link target) =>
        if rest = [] ∧ !manner.follow then .ok (place ++ [name])
        else
          match links with
          | 0 => .error .tooManyLinks
          | links + 1 => d.walk manner links (startOf place target) (names target ++ rest)
      | some _ => d.walk manner links (place ++ [name]) rest
  termination_by rest => (links, rest.length)

/-- The place that a path leads to, seen from `cwd`. -/
def locate (d : Disk) (manner : Manner) (cwd : Place) (path : String) : Except Trouble Place :=
  if '\x00' ∈ path.toList then .error .nulByte
  else if path.isEmpty then .error .missing
  else if path.length > pathLimit then .error .nameTooLong
  else d.walk manner linkLimit (startOf cwd path) (names path)

/-- What a path leads to. -/
def find (d : Disk) (cwd : Place) (path : String) : Except Trouble Node := do
  let place ← d.locate ⟨true, false⟩ cwd path
  match d.get? place with
  | some node => .ok node
  | none => .error .missing

/-- Whether a path leads to anything. -/
def exists? (d : Disk) (cwd : Place) (path : String) : Bool := (d.find cwd path).toBool

/-- Whether a path leads to a regular file. -/
def isFile (d : Disk) (cwd : Place) (path : String) : Bool :=
  match d.find cwd path with
  | .ok node => node.isFile
  | .error _ => false

/-- The directory that a path leads to. -/
def directory (d : Disk) (cwd : Place) (path : String) : Except Trouble Place := do
  let place ← d.locate ⟨true, false⟩ cwd path
  if d.get? place = some .directory then .ok place else .error .notDirectory

/-- What stands where a path leads, without following a link at its end. -/
def findLink (d : Disk) (cwd : Place) (path : String) : Except Trouble (Place × Node) := do
  let place ← d.locate ⟨false, false⟩ cwd path
  match d.get? place with
  | some node => .ok (place, node)
  | none => .error .missing

/-- The names in a directory, in the order of their bytes. -/
def entries (d : Disk) (place : Place) : List String :=
  let below := d.nodes.filterMap fun (other, _) =>
    if other ≠ [] ∧ other.dropLast = place then other.getLast? else none
  below.mergeSort fun a b => a ≤ b

/-! ## Reading and changing -/

/-- What an installed program holds. It is not text. -/
def programContent : String := "\x7fELF\xff"

/-- How much of an endless device is ever looked at. -/
def endlessLength : Nat := 262144

/-- The content of what can be read. -/
def contentOf : Node → Except Trouble String
  | .file content _ => .ok content
  | .directory => .error .isDirectory
  | .program _ => .ok programContent
  | .zeros => .ok ("".pushn '\x00' endlessLength)
  | .link _ | .sink | .stream _ => .ok ""

/-- The content of the file that a path leads to. -/
def read (d : Disk) (cwd : Place) (path : String) : Except Trouble String := do
  contentOf (← d.find cwd path)

/-- Change the file that a path leads to, or make one. A new file is not executable. -/
def update (d : Disk) (cwd : Place) (path : String) (change : String → String) :
    Except Trouble Disk := do
  let place ← d.locate ⟨true, true⟩ cwd path
  match d.get? place with
  | some .directory => .error .isDirectory
  | some (.file content executable) => .ok (d.put place (.file (change content) executable))
  | some _ => .ok d
  | none => .ok (d.put place (.file (change "") false))

/-- Make the directories that names lead through, where they are missing. -/
def makeDirectories (d : Disk) (place : Place) : List String → Except Trouble (Disk × Place)
  | [] => .ok (d, place)
  | name :: rest => do
    let place ← d.walk ⟨true, true⟩ linkLimit place [name]
    let d := if d.get? place = none then d.put place .directory else d
    d.makeDirectories place rest

/-- Put something where a path leads, with the directories on the way. A link at the end of the path
is followed if the manner says so. -/
def place (d : Disk) (follow : Bool) (cwd : Place) (path : String) (node : Node) :
    Except Trouble Disk := do
  let (d, parent) ← d.makeDirectories (startOf cwd path) (names path).dropLast
  let target ← d.walk ⟨follow, true⟩ linkLimit parent ((names path).getLast?.toList)
  .ok (d.put target node)

/-- Remove what a path leads to; a link is removed itself. -/
def discard (d : Disk) (cwd : Place) (path : String) : Except Trouble Disk := do
  .ok (d.erase (← d.locate ⟨false, false⟩ cwd path))

/-- What stands at a place and below it, as seen from there. -/
def subtree (d : Disk) (place : Place) : List (Place × Node) :=
  d.nodes.filterMap fun (other, node) =>
    if place.isPrefixOf other then some (other.drop place.length, node) else none

/-- Put a subtree at a place. -/
def graft (d : Disk) (place : Place) (nodes : List (Place × Node)) : Disk :=
  nodes.foldl (fun d (below, node) => d.put (place ++ below) node) d

/-- Move what stands at one place to another, over what stands there. -/
def move (d : Disk) (source target : Place) : Disk :=
  ((d.erase source).erase target).graft target (d.subtree source)

end Disk

end CSharpBuild.Machine
