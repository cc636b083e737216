/-
The state of a running shell, and the steps that everything a shell does is made of: variables,
streams, and complaints.

An `Act` is something that a shell does. It may change the shell, and it may stop it: an error stops
whatever the shell was doing, up to the command that lets it pass, and a signal ends it.
-/
import CSharpBuild.Machine.Launch
import CSharpBuild.Machine.Script.Token
import CSharpBuild.Machine.Shell.Fields
import CSharpBuild.Machine.Signal

namespace CSharpBuild.Machine

/-- A variable of a shell. It may lack a value and still be known for something else. -/
structure Variable where
  value : Option String
  exported : Bool
  readonly : Bool
  deriving Repr, DecidableEq

/-- What is kept to be put back when a function or a command ends. -/
inductive Kept where
  | binding (name : String) (before : Option Variable)
  | options (before : List Char)
  deriving Repr

/-- What of a script is to be skipped. -/
inductive Skip where
  | nothing
  /-- So many loops; the last of them may go on with its next round. -/
  | loops (count : Nat) (again : Bool)
  /-- The rest of a function. -/
  | function
  deriving Repr, DecidableEq

/-- A process in the background: how it ends, and when. -/
structure BackgroundJob where
  ending : Ending
  time : Nat
  deriving Repr, DecidableEq

/-- A running shell. -/
structure Shell where
  world : World
  streams : Descriptors
  /-- What the shell calls itself. -/
  name : String
  arguments : List String
  bindings : List (String × Variable)
  /-- What the functions and commands that are under way have kept, the last one first. -/
  frames : List (List Kept)
  functions : List (String × Script)
  aliases : List (String × String)
  /-- The documents that scripts refer to. -/
  documents : Array Word
  /-- What is done when a signal comes; nothing at all when the script is empty. -/
  traps : List (Nat × String)
  /-- The letters of the options that are on. -/
  options : List Char
  cwd : Place
  /-- The working directory as the script has named it. -/
  directory : String
  processId : Nat
  /-- The process of the shell that this one is a part of. -/
  rootId : Nat
  parentId : Nat
  /-- The process that was last put in the background. -/
  background : Option Nat
  /-- The processes in the background. -/
  jobs : List (Nat × BackgroundJob)
  /-- The status of the last command. -/
  status : Nat
  /-- The status of the last script whose output was taken. -/
  outputStatus : Nat
  /-- The status from before a trap, when one is under way. -/
  statusBeforeTrap : Option Nat
  skip : Skip
  /-- The line of the last command. -/
  line : Nat
  /-- The line up to which the script has been read. -/
  lineRead : Nat
  /-- The command that is doing something, as complaints call it. -/
  command : Option String
  /-- How many loops are under way. -/
  loops : Nat
  /-- Which argument `getopts` reads next, from one on, and how much of the one before it has read.
  -/
  optionIndex : Nat
  optionOffset : Option Nat
  /-- Where programs were found that have been looked up. -/
  found : List (String × String)
  /-- Whether the current command has written to a stream that is not open. -/
  lostOutput : Bool
  /-- The mask for new files. -/
  mask : Nat

/-- Why a shell does not go on. -/
inductive Stop where
  /-- It ends with the status that it has. -/
  | ended
  /-- Something went wrong. -/
  | failed
  | killed (signal : Nat)
  deriving Repr, DecidableEq

/-- Something that a shell does. -/
abbrev Act (α : Type) := ExceptT Stop (StateM Shell) α

namespace Shell

/-! ## Streams -/

/-- Write to a stream. Nothing is written to one that is not open, which is told. -/
def emit (stream : Nat) (text : String) : Act Bool := fun s =>
  match s.streams.lookup stream with
  | none => (.ok false, s)
  | some file =>
    if text.isEmpty then (.ok true, s)
    else
      let world := s.world
      let s := { s with world := .nothing }
      match world.write file text with
      | (true, world) => (.ok true, { s with world := world })
      | (false, world) => (.error (.killed 13), { s with world := world })

/-- Write a line to the stream for complaints, behind the place in the script. -/
def complain (text : String) : Act Unit := do
  let s ← get
  let command := match s.command with
    | some command => command ++ ": "
    | none => ""
  let _ ← emit 2 (s.name ++ ": " ++ toString s.line ++ ": " ++ command ++ text ++ "\n")

/-- Set the status. -/
def setStatus (status : Nat) : Act Unit := modify fun s => { s with status := status }

/-- Complain and stop. -/
def fail {α : Type} (text : String) : Act α := do
  complain text
  setStatus 2
  throw .failed

/-- Do something; if it goes wrong, be done with it all the same. -/
def attempt {α : Type} (act : Act α) : Act (Option α) := fun s =>
  match act s with
  | (.ok value, s) => (.ok (some value), s)
  | (.error .failed, s) => (.ok none, s)
  | (.error stop, s) => (.error stop, s)

/-- Change the world. -/
def onWorld (change : World → World) : Act Unit := modify fun s => { s with world := change s.world }

/-- What can be read from a stream. -/
def pending (stream : Nat) : Act (List Char) := do
  let s ← get
  match s.streams.lookup stream with
  | none => pure []
  | some file =>
    let (text, world) := s.world.pending file
    set { s with world := world }
    pure text

/-- Move on in a stream by what was read. -/
def advance (stream count : Nat) : Act Unit := modify fun s =>
  match s.streams.lookup stream with
  | none => s
  | some file => { s with world := s.world.advance file count }

/-- Close a stream. -/
def closeStream (streams : Descriptors) (stream : Nat) : Descriptors :=
  streams.filter (·.1 ≠ stream)

/-- Let a stream be an open file. -/
def setStream (streams : Descriptors) (stream file : Nat) : Descriptors :=
  (stream, file) :: closeStream streams stream

/-! ## Options -/

/-- The options, by letter and name. -/
def optionTable : List (Char × String) :=
  [('e', "errexit"), ('f', "noglob"), ('I', "ignoreeof"), ('i', "interactive"), ('m', "monitor"),
    ('n', "noexec"), ('s', "stdin"), ('x', "xtrace"), ('v', "verbose"), ('V', "vi"),
    ('E', "emacs"), ('C', "noclobber"), ('a', "allexport"), ('b', "notify"), ('u', "nounset"),
    ('p', "privileged"), ('\x01', "nolog"), ('\x02', "debug")]

/-- Whether an option is on. -/
def has (s : Shell) (letter : Char) : Bool := s.options.contains letter

/-- Switch an option. -/
def switch (s : Shell) (letter : Char) (on : Bool) : Shell :=
  let others := s.options.filter (· ≠ letter)
  { s with options := if on then letter :: others else others }

/-- The letters of the options that are on. -/
def optionLetters (s : Shell) : String :=
  String.ofList ((optionTable.reverse.map Prod.fst).filter fun c => c.isAlpha && s.has c)

/-! ## Variables -/

/-- A variable. -/
def binding? (s : Shell) (name : String) : Option Variable := s.bindings.lookup name

/-- The value of a variable. -/
def valueOf? (s : Shell) (name : String) : Option String := (s.binding? name).bind Variable.value

/-- Put a variable in place of what has its name. -/
def putBinding (s : Shell) (name : String) (binding : Option Variable) : Shell :=
  let others := s.bindings.filter (·.1 ≠ name)
  { s with bindings := (binding.map fun v => (name, v)).toList ++ others }

/-- What a variable means to the shell itself. -/
def noticing (s : Shell) (name value : String) : Shell :=
  if name = "OPTIND" then
    { s with optionIndex := (value.toNat?.filter (· ≠ 0)).getD 1, optionOffset := none }
  else if name = "PATH" then { s with found := [] }
  else s

/-- The value of a variable that has or lacks one, with what the variable is known for. -/
def withValue (s : Shell) (name : String) (value : Option String) (exported : Bool) : Shell :=
  let before := (s.binding? name).getD ⟨none, false, false⟩
  let exported := before.exported || exported || (value.isSome && s.has 'a')
  let s := s.noticing name (value.getD "")
  s.putBinding name (some { before with value := value, exported := exported })

/-- Set a variable, which must not be one that stays as it is. -/
def assignAs (name value : String) (exported : Bool) : Act Unit := do
  let s ← get
  if (s.binding? name).any Variable.readonly then fail (name ++ ": is read only")
  if name = "OPTIND" ∧ !value.toList.all Char.isDigit then fail ("Illegal number: " ++ value)
  set (s.withValue name (some value) exported)

/-- Set a variable. -/
def assign (name value : String) : Act Unit := assignAs name value false

/-- Remove a variable. -/
def forget (name : String) : Act Unit := do
  let s ← get
  if (s.binding? name).any Variable.readonly then fail (name ++ ": is read only")
  set ((s.noticing name "").putBinding name none)

/-- Keep a variable as it is until the current function or command ends. -/
def keepVariable (name : String) : Act Unit := modify fun s =>
  let kept := Kept.binding name (s.binding? name)
  let frames := match s.frames with
    | frame :: rest => (kept :: frame) :: rest
    | [] => []
  { s with frames := frames }

/-- Begin to keep what is to be put back. -/
def openFrame : Act Unit := modify fun s => { s with frames := [] :: s.frames }

/-- Put back one thing that was kept. -/
def putBack (s : Shell) : Kept → Shell
  | .binding name before => s.putBinding name before
  | .options before => { s with options := before }

/-- Put back what was kept since a count of frames. -/
def closeFrames (count : Nat) : Act Unit := modify fun s =>
  let ended := s.frames.take (s.frames.length - count)
  let s := { s with frames := s.frames.drop ended.length }
  ended.flatten.foldl putBack s

/-- The variables that a program is started with. -/
def environment (s : Shell) : List (String × String) :=
  (s.bindings.filterMap fun (name, v) =>
    if v.exported then v.value.map fun value => (name, value) else none).mergeSort
    fun a b => a.1 ≤ b.1

/-- The value of a parameter. -/
def parameter? (s : Shell) (name : String) : Option String :=
  match name with
  | "?" => some (toString s.status)
  | "#" => some (toString s.arguments.length)
  | "$" => some (toString s.rootId)
  | "!" => s.background.map toString
  | "0" => some s.name
  | "-" => some s.optionLetters
  | _ =>
    if (name.toList.head?).any Char.isDigit then
      match name.toNat? with
      | some 0 | none => some s.name
      | some (position + 1) => s.arguments[position]?
    else s.valueOf? name

/-- The separators of fields. -/
def separators (s : Shell) : String := (s.valueOf? "IFS").getD Fields.usualSeparators

/-- What stands between arguments that are joined. -/
def joiner (s : Shell) : String :=
  match s.valueOf? "IFS" with
  | none => " "
  | some separators => (separators.take 1).toString

/-- The search path. -/
def searchPath (s : Shell) : String := (s.valueOf? "PATH").getD ""

/-! ## Signals -/

/-- Send a signal to a process. -/
def signal (process number : Nat) : Act Unit :=
  onWorld fun w => { w with signals := w.signals ++ [(process, number)] }

/-- The script for a signal, if the shell has one. -/
def trap? (s : Shell) (number : Nat) : Option String := s.traps.lookup number

/-- The signals that programs are started to ignore. -/
def ignored (s : Shell) : List Nat :=
  (s.traps.filter fun (number, action) => number ≠ 0 && action.isEmpty).map Prod.fst

/-- A shell that a process with traps of its own begins as: it ignores what was ignored, and nothing
else. -/
def withoutTraps (s : Shell) : Shell := { s with traps := s.traps.filter (·.2.isEmpty) }

/-! ## Shells of their own -/

/-- The job of a program that a shell starts. -/
def job (s : Shell) (name : String) (args : List String) : Job :=
  ⟨name, args, s.environment, s.cwd, s.streams, s.processId, s.processId, s.ignored⟩

/-- A shell for a job. -/
def ofJob (j : Job) (w : World) (name : String) (arguments : List String) (options : List Char) :
    Shell :=
  let known := j.environment.filter fun (name, _) => Script.isName name && name ≠ "IFS"
  let exported := known.map fun (name, value) => (name, (⟨some value, true, false⟩ : Variable))
  let own (name value : String) (exported : Bool) : String × Variable :=
    (name, ⟨some value, exported, false⟩)
  let directory := (Place.path j.cwd).text
  let owns := ["OPTIND", "PWD", "PPID", "PS1", "PS2", "PS4"]
  { world := w
    streams := j.streams
    name := name
    arguments := arguments
    bindings :=
      [own "IFS" Fields.usualSeparators false, own "OPTIND" "1" false, own "PWD" directory true,
        own "PPID" (toString j.parentId) false, own "PS1" "# " false, own "PS2" "> " false,
        own "PS4" "+ " false] ++ exported.filter fun (name, _) => !owns.contains name
    frames := []
    functions := []
    aliases := []
    documents := #[]
    traps := j.ignored.map fun number => (number, "")
    options := options
    cwd := j.cwd
    directory := directory
    processId := j.processId
    rootId := j.processId
    parentId := j.parentId
    background := none
    jobs := []
    status := 0
    outputStatus := 0
    statusBeforeTrap := none
    skip := .nothing
    line := 1
    lineRead := 1
    command := none
    loops := 0
    optionIndex := 1
    optionOffset := none
    found := []
    lostOutput := false
    mask := 18 }

end Shell

end CSharpBuild.Machine
