/-
From a unit to a compiled library: select the backend, compose the arguments, make them a command
and have it run.

`prepare` stops before the run. The primary compiler is the program, or the first argument of the
configured launcher; it is also told the process id of the host, in a define that stands before the
response file so that the response file stays last. The fallback runs the host's default command.
`compile` runs what was prepared once and never tries again.
-/
import CSharpBuild.Compiler.Arguments

namespace CSharpBuild

/-- A command ready to run. -/
structure Prepared where
  toolchain : Toolchain
  command : Command
  warnings : List Warning
  deriving DecidableEq, Repr

/-- A finished compile. -/
structure Compiled where
  toolchain : Toolchain
  command : Command
  output : Output
  warnings : List Warning
  deriving DecidableEq, Repr

namespace Compiler

/-- Put a token before the last one that starts with `@`, at the end if there is none. -/
def insertBeforeResponseFile (token : String) : List String → List String
  | [] => [token]
  | arg :: rest =>
    if Text.startsWith arg "@" ∧ rest.all (fun later => !Text.startsWith later "@") then
      token :: arg :: rest
    else arg :: insertBeforeResponseFile token rest

/-- The define that tells the compiler who its host is. -/
def processIdToken (symbol : String) (processId : Nat) : String :=
  "-define:" ++ symbol ++ toString processId

/-- The arguments for the primary compiler: with the process id, unless that is turned off. -/
def identified (c : Compiler) (args : List String) : List String :=
  match c.config.processIdDefine with
  | none => args
  | some symbol => insertBeforeResponseFile (processIdToken symbol c.processId) args

/-- The command that runs the primary compiler with `args`. -/
def primaryCommand (c : Compiler) (executable : Path) (args : List String) : Command :=
  match c.config.launcher with
  | none => ⟨executable, c.identified args, some c.config.projectRoot⟩
  | some launcher =>
    ⟨launcher, Token.quote executable :: c.identified args, some c.config.projectRoot⟩

/-- The host's default command with `args` after its own, in the project root. -/
def fallbackCommand (c : Compiler) (default : Command) (args : List String) : Command :=
  ⟨default.program, default.args ++ args, some c.config.projectRoot⟩

/-- The primary executable of a composition, if that is what will run. -/
def executable? (t : Toolchain) : Option Path :=
  if t.isPrimary then t.executable else none

/-- Select a backend and make the whole command, without running it. -/
def prepare (c : Compiler) (u : BuildUnit) : Plan (Except Failure Prepared) := do
  let base := c.config.projectRoot
  let selected ← c.select base u
  let missing ←
    if selected.isPrimary then pure []
    else do
      let warning ← Plan.raise (.compilerNotFound (c.primaryPath base))
      pure [warning]
  let composed ← c.compose u c.config.epoch selected
  let warnings := missing ++ composed.warnings
  match executable? composed.toolchain with
  | some executable =>
    pure (.ok ⟨composed.toolchain, c.primaryCommand executable composed.args, warnings⟩)
  | none =>
    match ← Plan.defaultCommand with
    | .error failure => pure (.error failure)
    | .ok default =>
      pure (.ok ⟨composed.toolchain, c.fallbackCommand default composed.args, warnings⟩)

/-- What a run means for the compile it belongs to. -/
def verdict (p : Prepared) : Except String Output → Except Failure Compiled
  | .error cause => .error (.notStarted p.command.program cause)
  | .ok output =>
    if output.success then .ok ⟨p.toolchain, p.command, output, p.warnings⟩
    else .error (.rejected p.command.program output)

/-- Compile a unit. -/
def compile (c : Compiler) (u : BuildUnit) : Plan (Except Failure Compiled) := do
  match ← c.prepare u with
  | .error failure => pure (.error failure)
  | .ok prepared =>
    Plan.note (.info ("compiling target " ++ u.output.text ++ " with the "
      ++ prepared.toolchain.backend.name ++ " compiler"))
    let answer ← Plan.launch prepared.command
    match verdict prepared answer with
    | .error failure => pure (.error failure)
    | .ok compiled =>
      Plan.note (.info (u.output.text ++ " build finished"))
      pure (.ok compiled)

end Compiler

end CSharpBuild
