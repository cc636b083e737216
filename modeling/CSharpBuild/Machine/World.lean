/-
What the programs of a machine share: its disk, the files they have open, the pipes between them,
the signals on their way and a clock. A file that is open keeps its own position, which all who have
inherited it share; `World.write`, `World.pending` and `World.advance` are all that is ever done
with one.

One program runs at a time. What runs beside another in truth runs before it here, and the clock is
put back, so that a pipe gets to know when something was written to it.
-/
import CSharpBuild.Machine.Disk

namespace CSharpBuild.Machine

/-- Where an open file leads. -/
inductive Endpoint where
  | pipe (index : Nat)
  | file (place : Place)
  | sink
  | zeros
  deriving Repr, DecidableEq

/-- An open file. -/
structure OpenFile where
  endpoint : Endpoint
  /-- How many characters lie behind the position. -/
  offset : Nat
  /-- Whether everything is written at the end. -/
  append : Bool
  deriving Repr, DecidableEq

/-- A pipe: what its readers are about to get, and what was written after that and when. -/
structure Pipe where
  waiting : List Char
  written : Array (Nat × String)
  /-- How much was written. -/
  size : Nat
  /-- Whether there is a reader that may stop before it has read everything. -/
  bounded : Bool
  deriving Repr

/-- What programs share. -/
structure World where
  disk : Disk
  files : Array OpenFile
  pipes : Array Pipe
  /-- The number of the process that was started last. -/
  lastProcess : Nat
  /-- Signals that were sent, each with the process it goes to. -/
  signals : List (Nat × Nat)
  /-- The time, in thousandths of a second. -/
  clock : Nat

/-- Which open file each stream of a program is. -/
abbrev Descriptors := List (Nat × Nat)

namespace World

/-- A world of nothing. -/
def nothing : World := ⟨⟨[]⟩, #[], #[], 0, [], 0⟩

/-- Open a file. -/
def openFile (w : World) (f : OpenFile) : Nat × World :=
  (w.files.size, { w with files := w.files.push f })

/-- Make a pipe. -/
def newPipe (w : World) (bounded : Bool) : Nat × World :=
  (w.pipes.size, { w with pipes := w.pipes.push ⟨[], #[], 0, bounded⟩ })

/-- Make a pipe and open it. -/
def openPipe (w : World) (bounded : Bool) : Nat × Nat × World :=
  let (pipe, w) := w.newPipe bounded
  let (file, w) := w.openFile ⟨.pipe pipe, 0, false⟩
  (pipe, file, w)

/-- What was written to a pipe, in the order of time. -/
def inOrder (written : Array (Nat × String)) : String :=
  let pieces := written.toList
  let pieces :=
    if written.all fun (time, _) => time = (written[0]?.getD (0, "")).1 then pieces
    else pieces.mergeSort fun a b => a.1 ≤ b.1
  pieces.foldl (fun text (_, piece) => text ++ piece) ""

/-- All that was written to a pipe. -/
def pipeContent (w : World) (pipe : Nat) : String :=
  match w.pipes[pipe]? with
  | some p => String.ofList p.waiting ++ inOrder p.written
  | none => ""

/-- Let time pass, up to a given time. -/
def waitUntil (w : World) (time : Nat) : World := { w with clock := max w.clock time }

/-- Go back to a time, and forget what has been written to pipes since. -/
def cutOff (w : World) (time : Nat) : World :=
  { w with
    clock := time
    pipes := w.pipes.map fun p => { p with written := p.written.filter fun (t, _) => t ≤ time } }

/-- Start a process: its number. -/
def newProcess (w : World) : Nat × World :=
  (w.lastProcess + 1, { w with lastProcess := w.lastProcess + 1 })

/-- Put a text over another, from an offset on; what is missing up to there becomes zeros. -/
def overwrite (content : String) (offset : Nat) (text : String) : String :=
  let length := content.length
  if length ≤ offset then content ++ "".pushn '\x00' (offset - length) ++ text
  else
    let chars := content.toList
    String.ofList (chars.take offset ++ text.toList ++ chars.drop (offset + text.length))

/-- Change the pipe of an index. -/
def changePipe (w : World) (pipe : Nat) (change : Pipe → Pipe) : World :=
  { w with pipes := w.pipes.modify pipe change }

/-- Move the position of an open file. -/
def seek (w : World) (file : Nat) (offset : Nat) : World :=
  { w with files := w.files.modify file fun f => { f with offset := offset } }

/-- Write to an open file. The answer is `false` if it is a pipe whose reader has long had more than
it will ever read. -/
def write (w : World) (file : Nat) (text : String) : Bool × World :=
  match w.files[file]? with
  | none => (true, w)
  | some f =>
    match f.endpoint with
    | .sink | .zeros => (true, w)
    | .pipe pipe =>
      let overrun := match w.pipes[pipe]? with
        | some p => p.bounded && Disk.endlessLength < p.size
        | none => false
      let clock := w.clock
      (!overrun, w.changePipe pipe fun p => { p with
        written := p.written.push (clock, text)
        size := p.size + text.utf8ByteSize })
    | .file place =>
      match w.disk.get? place with
      | some (.file content executable) =>
        let offset := if f.append then content.length else f.offset
        let changed := overwrite content offset text
        (true, { w with disk := w.disk.put place (.file changed executable) }.seek file
          (offset + text.length))
      | _ => (true, w)

/-- What can be read from an open file from its position on. -/
def pending (w : World) (file : Nat) : List Char × World :=
  match w.files[file]? with
  | none => ([], w)
  | some f =>
    match f.endpoint with
    | .sink => ([], w)
    | .zeros => (List.replicate Disk.endlessLength '\x00', w)
    | .file place =>
      match w.disk.get? place with
      | some node => (((Disk.contentOf node).toOption.getD "").toList.drop f.offset, w)
      | none => ([], w)
    | .pipe pipe =>
      match w.pipes[pipe]? with
      | none => ([], w)
      | some p =>
        if p.written.isEmpty then (p.waiting, w)
        else
          let waiting := p.waiting ++ (inOrder p.written).toList
          let last := p.written.foldl (fun time piece => max time piece.1) 0
          (waiting, (w.changePipe pipe fun p =>
            { p with waiting := waiting, written := #[] }).waitUntil last)

/-- Move on in an open file by what was read. -/
def advance (w : World) (file : Nat) (count : Nat) : World :=
  match w.files[file]? with
  | none => w
  | some f =>
    match f.endpoint with
    | .sink | .zeros => w
    | .file _ => w.seek file (f.offset + count)
    | .pipe pipe => w.changePipe pipe fun p => { p with waiting := p.waiting.drop count }

/-- Whether an open file can be read again from an earlier position. -/
def isSeekable (w : World) (file : Nat) : Bool :=
  match w.files[file]? with
  | some ⟨.file _, _, _⟩ => true
  | _ => false

end World

end CSharpBuild.Machine
