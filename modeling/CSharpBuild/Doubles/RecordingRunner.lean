/-
A runner that starts nothing: it records the line of every command it is asked to run and answers
from what it was told to expect.

An answer is taken from the first expectation that fits, else from the default, else the run fails.
A runner told to refuse fails every run. `run` changes nothing but the record.
-/
import CSharpBuild.Doubles.FileTree
import CSharpBuild.Host
import CSharpBuild.Text

namespace CSharpBuild.Doubles

/-- Which command lines an expectation fits. -/
inductive Pattern where
  | exactly (line : String)
  | containing (piece : String)
  deriving DecidableEq, Repr

/-- Whether a command line fits. -/
def Pattern.fits : Pattern → String → Bool
  | .exactly expected, line => line = expected
  | .containing piece, line => Text.contains line piece

/-- What a recording runner was told and what it was asked. -/
structure RecordingRunner where
  expectations : List (Pattern × Output)
  calls : List String
  default : Option Output
  refusing : Bool
  deriving DecidableEq, Repr

namespace RecordingRunner

/-- A runner that expects nothing. -/
def new : RecordingRunner := ⟨[], [], none, false⟩

/-- Expect command lines that fit a pattern. -/
def expect (r : RecordingRunner) (pattern : Pattern) (output : Output) : RecordingRunner :=
  { r with expectations := r.expectations ++ [(pattern, output)] }

/-- Answer every command that no expectation fits. -/
def setDefault (r : RecordingRunner) (output : Output) : RecordingRunner :=
  { r with default := some output }

/-- Fail every run from now on. -/
def refuse (r : RecordingRunner) : RecordingRunner := { r with refusing := true }

/-- The answer to a command. -/
def answer (r : RecordingRunner) (command : Command) : Except String Output :=
  if r.refusing then .error ("failed to spawn `" ++ command.program.text ++ "`")
  else match r.expectations.find? fun expectation => expectation.1.fits command.line with
    | some expectation => .ok expectation.2
    | none => match r.default with
      | some output => .ok output
      | none => .error ("unexpected command: " ++ command.line)

/-- Record a command and answer it. -/
def run (r : RecordingRunner) (command : Command) : Except String Output × RecordingRunner :=
  (r.answer command, { r with calls := r.calls ++ [command.line] })

/-- A host that looks at a file tree and runs with a recording runner. -/
def host (files : FileTree) (default : Except Failure Command) : Host RecordingRunner where
  probe path r := ⟨files.isFile path, [], r⟩
  defaultCommand r := ⟨default, [], r⟩
  run command r := ⟨(r.run command).1, [], (r.run command).2⟩

end RecordingRunner

end CSharpBuild.Doubles
