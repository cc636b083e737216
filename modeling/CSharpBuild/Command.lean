/-
Commands and what comes of running them. The arguments of a `Command` are command-line tokens; the
`Invocation` of a command holds the arguments a child process really receives, one for each token.
-/
import CSharpBuild.Token
import CSharpBuild.Text.Utf8

namespace CSharpBuild

/-- A program with command-line tokens and the directory it runs in. -/
structure Command where
  program : Path
  args : List String
  cwd : Option Path
  deriving DecidableEq, Repr

/-- What a child process is started with: every argument as the child sees it. -/
structure Invocation where
  program : Path
  args : List String
  cwd : Option Path
  deriving DecidableEq, Repr

namespace Command

/-- Resolve the quoting of every token. -/
def invocation (c : Command) : Invocation :=
  ⟨c.program, c.args.map Token.unquote, c.cwd⟩

/-- Program and tokens on one line, with single spaces between them. -/
def line (c : Command) : String :=
  " ".intercalate (c.program.text :: c.args)

end Command

namespace Invocation

/-- Add one argument, taken as it is. -/
def push (i : Invocation) (arg : String) : Invocation :=
  { i with args := i.args ++ [arg] }

/-- Program and arguments on one line, for log messages. -/
def line (i : Invocation) : String :=
  " ".intercalate (i.program.text :: i.args)

end Invocation

/-- What a finished process left: its exit code, `none` when a signal ended it, and its streams. -/
structure Output where
  code : Option Int
  stdout : String
  stderr : String
  deriving DecidableEq, Repr

namespace Output

/-- A process succeeded when its exit code is zero. -/
def success (o : Output) : Bool := o.code = some 0

/-- The exit code in a wait status: its second byte, when the low seven bits are zero. -/
def exitCode? (status : Nat) : Option Int :=
  if status % 128 = 0 then some (status / 256 % 256 : Nat) else none

/-- The output of a process from its wait status and the bytes it wrote. -/
def ofStatus (status : Nat) (stdout stderr : List UInt8) : Output :=
  ⟨exitCode? status, Text.Utf8.decodeLossy stdout, Text.Utf8.decodeLossy stderr⟩

end Output

end CSharpBuild
