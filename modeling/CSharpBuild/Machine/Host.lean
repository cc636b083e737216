/-
A machine as the host of plans: probes look at its disk, and commands run to their end on it. It is
one host of many, there to run plans on files and scripts: what is proved of a plan is proved for any
host, and rests on no machine.
-/
import CSharpBuild.Host
import CSharpBuild.Machine.Search

namespace CSharpBuild.Machine

open Text

/-- How deep scripts may nest and how often their loops may go round. -/
def fuel : Nat := 100000

/-- How many processes there may be. Their numbers start again when they have all been used. -/
def processLimit : Nat := 4194304

/-- Run a program to its end. There is no output if it does not start. -/
def run? (m : Machine) (i : Invocation) : Option (Output × Machine) := do
  let texts := i.program.text :: i.args ++ (i.cwd.map Path.text).toList
  if texts.any fun text => '\x00' ∈ text.toList then none
  let cwd ←
    match i.cwd with
    | none => some m.cwd
    | some path => (m.disk.directory m.cwd (Octets.ofText path.text)).toOption
  let environment := m.environment.map fun (name, value) => (Octets.ofText name, Octets.ofText value)
  let searchPath := (environment.lookup "PATH").getD ""
  let name := Octets.ofText i.program.text
  let path ← (Launch.path m.disk cwd searchPath name).toOption
  let process := m.processId % processLimit + 1
  let w := { World.nothing with disk := m.disk, lastProcess := process }
  let (input, w) := w.openFile ⟨.sink, 0, false⟩
  let (out, outFile, w) := w.openPipe false
  let (err, errFile, w) := w.openPipe false
  let job : Job :=
    ⟨name, i.args.map Octets.ofText, environment, cwd, [(0, input), (1, outFile), (2, errFile)],
      process, process - 1, []⟩
  let (ending, w) ← (Shell.start fuel path job w).toOption
  let code : Option Int :=
    match ending with
    | .exited status => some status
    | .killed _ => none
  pure (⟨code, Octets.toText (w.pipeContent out), Octets.toText (w.pipeContent err)⟩,
    { m with disk := w.disk })

/-- What the log says when a program is run. -/
def runEntry (i : Invocation) : LogEntry := .debug ("running `" ++ i.line ++ "`")

/-- Run a command, or say that it does not start. -/
def runCommand (m : Machine) (c : Command) : Answer Machine (Except String Output) :=
  let entries := [runEntry c.invocation]
  match m.run? c.invocation with
  | some (output, m) => ⟨.ok output, entries, m⟩
  | none => ⟨.error ("failed to spawn `" ++ c.program.text ++ "`"), entries, m⟩

/-- The default compiler command of an installation on a machine. -/
def defaultCommand (m : Machine) (mono : Mono) : Except Failure Command :=
  mono.defaultCommand (m.isFile mono.compilerAssembly)

/-- A machine as a host, with the installation it has. -/
def host (mono : Mono) : Host Machine where
  probe path m := ⟨m.isFile path, m.probeEntries path, m⟩
  defaultCommand m := ⟨m.defaultCommand mono, [], m⟩
  run command m := m.runCommand command

end CSharpBuild.Machine
