/-
Starting programs: which file a program's name stands for, and what kind of file that is. A name
with a separator is a path; any other is looked for in the directories of the search path, in order.
A file starts if it is installed or if it is executable and names its interpreter in its first line.
-/
import CSharpBuild.Machine.World

namespace CSharpBuild.Machine

/-- A program that is to be started: the name it gets for itself, its arguments and what it runs in.
-/
structure Job where
  name : String
  args : List String
  environment : List (String × String)
  cwd : Place
  streams : Descriptors
  processId : Nat
  /-- The process that started it. -/
  parentId : Nat
  /-- The signals that it is told to ignore. -/
  ignored : List Nat
  deriving Repr

/-- How a program ends. -/
inductive Ending where
  | exited (status : Nat)
  | killed (signal : Nat)
  deriving Repr, DecidableEq

/-- The status that a script sees of a program. -/
def Ending.status : Ending → Nat
  | .exited status => status
  | .killed signal => 128 + signal

/-- Why a program does not start. -/
inductive Refusal where
  | missing
  | denied
  /-- The file is executable but names no interpreter. -/
  | unknownFormat
  deriving Repr, DecidableEq

namespace Launch

/-- The directories of a search path. -/
def directories (searchPath : String) : List String :=
  (searchPath.toList.splitOn ':').map String.ofList

/-- Where a name may be, by the search path. -/
def places (searchPath name : String) : List String :=
  (directories searchPath).map fun directory => (Path.join ⟨directory⟩ ⟨name⟩).text

/-- What keeps a path from being started, if anything does. -/
def obstacle? (d : Disk) (cwd : Place) (path : String) : Option Refusal :=
  match d.find cwd path with
  | .ok node => if node.isExecutable then none else some .denied
  | .error .denied => some .denied
  | .error _ => some .missing

/-- The path of the program of a name. A file that may not be executed is passed over on the search
path, but remembered in case there is no other. -/
def path (d : Disk) (cwd : Place) (searchPath name : String) : Except Refusal String :=
  let attempt (path : String) : Except Refusal String :=
    match obstacle? d cwd path with
    | none => .ok path
    | some refusal => .error refusal
  if name.isEmpty then .error .missing
  else if name.contains '/' then attempt name
  else
    let tries := (places searchPath name).map attempt
    match tries.find? Except.toBool with
    | some found => found
    | none => .error (if tries.any (fun t => t matches .error .denied) then .denied else .missing)

/-- Whether a character is a blank. -/
def isBlank (c : Char) : Bool := c = ' ' || c = '\t'

/-- The interpreter that the first line of a file names, with its argument if there is one. -/
def interpreter? (content : String) : Option (String × List String) :=
  match content.toList with
  | '#' :: '!' :: rest =>
    let line := (rest.takeWhile (· ≠ '\n')).dropWhile isBlank
    let name := line.takeWhile fun c => !isBlank c
    let arg := ((line.dropWhile fun c => !isBlank c).dropWhile isBlank).reverse
    let arg := (arg.dropWhile isBlank).reverse
    if name.isEmpty then none
    else some (String.ofList name, if arg.isEmpty then [] else [String.ofList arg])
  | _ => none

end Launch

end CSharpBuild.Machine
