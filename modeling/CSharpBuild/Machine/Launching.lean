/-
Programs that run others: the course of such a program is what it writes and which commands it
runs, where each step may depend on how the commands before it have ended.
-/
import CSharpBuild.Machine.Launch
import CSharpBuild.Machine.Tool

namespace CSharpBuild.Machine

/-- The course of a program that runs others. -/
inductive Course where
  | done (status : Nat)
  | write (stream : Nat) (text : String) (rest : Course)
  /-- Run a command, which is its name and its arguments. -/
  | run (command : List String) (next : Except Refusal Ending → Course)
  /-- Leave the disk in a new state. -/
  | leave (disk : Disk) (rest : Course)
  /-- Run a command, perhaps with a text to read, and perhaps to get what it writes; go on with how it
  ended, what it wrote and the disk as it left it. -/
  | exchange (command : List String) (given : Option String) (captures : Bool)
    (next : Ending → String → Disk → Course)

/-- What a program does that runs others. -/
structure Launching where
  course : Course
  /-- How much of the input the program takes itself. -/
  taken : Nat
  /-- What the commands are run in. -/
  environment : List (String × String)
  cwd : Place
  /-- The disk as the program itself leaves it. -/
  disk : Disk
  /-- Whether the program becomes the command that it runs. -/
  replaced : Bool
  /-- Whether the commands get the input. -/
  sharesInput : Bool
  /-- How long a command may take, in thousandths of a second, and how all ends if it takes longer. -/
  limit : Option (Nat × Ending)

namespace Course

/-- Write texts, each to its stream. -/
def writeAll (written : List (Nat × String)) (rest : Course) : Course :=
  written.foldr (fun (stream, text) rest => .write stream text rest) rest

/-- The course of a tool that does not run anything. -/
def ofEffect (e : Effect) : Course := writeAll e.written (.done e.status)

/-- Why a command does not start. -/
def reason : Refusal → String
  | .missing => Trouble.missing.words
  | .denied => Trouble.denied.words
  | .unknownFormat => "Exec format error"

/-- The status for a command that does not start. -/
def refusedStatus : Refusal → Nat
  | .missing => 127
  | _ => 126

/-- Run a command and end as it does; `refused` says what is said if it does not start. -/
def become (command : List String) (refused : Refusal → String) : Course :=
  .run command fun
    | .ok ending => .done ending.status
    | .error refusal => .write 2 (refused refusal) (.done (refusedStatus refusal))

end Course

namespace Launching

/-- Nothing but what an effect leaves. -/
def ofEffect (c : Call) (e : Effect) : Launching :=
  ⟨.ofEffect e, e.taken, c.environment, c.cwd, e.disk, false, true, none⟩

/-- Become a command. -/
def become (c : Call) (command : List String) (refused : Refusal → String) : Launching :=
  ⟨.become command refused, 0, c.environment, c.cwd, c.disk, true, true, none⟩

/-- A program with options. A misuse of it leaves a status. -/
def withOptions (o : Tool.Options) (status : Nat) (program : Tool.Arguments → Call → Launching)
    (c : Call) : Launching :=
  match o.read c.args with
  | .ok a => program a c
  | .error misuse => ofEffect c (Tool.misused status misuse.words c)

end Launching

end CSharpBuild.Machine
