/-
Redirections: which open file each stream of a command is. The words of all redirections of a
command are expanded before any file is opened, and documents when their turn comes.
-/
import CSharpBuild.Machine.Shell.Expand

namespace CSharpBuild.Machine.Shell

/-- A redirection whose word has been expanded. -/
inductive Opening where
  | file (stream : Nat) (direction : Direction) (path : String)
  /-- The stream becomes the same as another one. -/
  | copy (stream source : Nat)
  | close (stream : Nat)
  | document (stream number : Nat)
  deriving Repr, DecidableEq

/-- Expand the word of a redirection. -/
def opening (output : Script → Act String) : Redirection → Act Opening
  | .document stream number => pure (.document stream number)
  | .file stream direction target => do
    let path ← text output target
    if direction ≠ .duplicate then pure (.file stream direction path)
    else
      match path.toList with
      | ['-'] => pure (.close stream)
      | [c] =>
        if c.isDigit then pure (.copy stream (c.toNat - '0'.toNat)) else badNumber
      | _ => badNumber
where
  /-- Complain about a stream that has no number. -/
  badNumber : Act Opening := do
    modify fun s => { s with line := s.lineRead }
    fail "Syntax error: Bad fd number"

/-- Why a file could not be opened. -/
def openingFailure (creates : Bool) (path : String) (t : Trouble) : String :=
  let reason :=
    if t = .missing ∨ t = .notDirectory then
      (if creates then "Directory nonexistent" else "No such file")
    else t.words
  "cannot " ++ (if creates then "create " else "open ") ++ path ++ ": " ++ reason

/-- What a file is when it is open. A stream is open already. -/
def endpointOf (s : Shell) (place : Place) : Node → Except Nat Endpoint
  | .sink => .ok .sink
  | .zeros => .ok .zeros
  | .stream number => .error ((s.streams.lookup number).getD s.world.files.size)
  | .file .. | .directory | .link _ | .program _ => .ok (.file place)

/-- Open a file: the number of the open file. -/
def openFile (direction : Direction) (path : String) : Act Nat := do
  let s ← get
  let creates := direction ≠ .input
  let refuse (t : Trouble) : Act Nat := fail (openingFailure creates path t)
  let keep (content : String) : String := content
  let drop (_ : String) : String := ""
  let changed : Except Trouble Disk :=
    match direction with
    | .input => (s.world.disk.find s.cwd path).map fun _ => s.world.disk
    | .append | .both => s.world.disk.update s.cwd path keep
    | .output | .force | .duplicate =>
      if direction = .output && s.has 'C' && s.world.disk.isFile s.cwd path then
        .error .alreadyThere
      else s.world.disk.update s.cwd path drop
  match changed with
  | .error t => refuse t
  | .ok disk =>
    match disk.locate ⟨true, false⟩ s.cwd path with
    | .error t => refuse t
    | .ok place =>
      match s.endpointOf place ((disk.get? place).getD .sink) with
      | .error file => pure file
      | .ok endpoint =>
        let (file, world) := { s.world with disk := disk }.openFile
          ⟨endpoint, 0, direction = Direction.append⟩
        set { s with world := world }
        pure file

/-- Make the output of something the input of what follows: the number of the open file. -/
def openText (content : String) : Act Nat := do
  let s ← get
  let (pipe, file, world) := s.world.openPipe false
  set { s with world := world.changePipe pipe fun p => { p with waiting := content.toList } }
  pure file

/-- Make a redirection. -/
def redirect (output : Script → Act String) (o : Opening) : Act Unit := do
  let lead (stream file : Nat) : Act Unit :=
    modify fun s => { s with streams := setStream s.streams stream file }
  match o with
  | .file stream direction path => do lead stream (← openFile direction path)
  | .close stream => modify fun s => { s with streams := closeStream s.streams stream }
  | .copy stream source =>
    if stream = source then pure ()
    else
      match (← get).streams.lookup source with
      | some file => lead stream file
      | none => fail (toString source ++ ": Bad file descriptor")
  | .document stream number => do
    let word := ((← get).documents[number]?).getD []
    lead stream (← openText (← documentText output word))

/-- Make redirections, whether or not one goes wrong: whether they all went well. -/
def redirectAll (output : Script → Act String) (openings : List Opening) : Act Bool := do
  pure (← attempt (openings.forM (redirect output))).isSome

end CSharpBuild.Machine.Shell
