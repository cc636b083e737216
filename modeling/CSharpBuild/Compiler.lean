/-
A compiler for one project: its configuration, the layout of the host and the process id of the
host. `Compiler.select` chooses the backend for a unit. It only looks whether the primary compiler
is where the configuration expects it; a missing one is an ordinary outcome.
-/
import CSharpBuild.BuildUnit
import CSharpBuild.Config
import CSharpBuild.Plan
import CSharpBuild.Toolchain
import CSharpBuild.Warning

namespace CSharpBuild

/-- A configured compiler. -/
structure Compiler where
  config : Config
  layout : Layout
  processId : Nat

namespace Compiler

/-- Where the primary compiler is expected under `base`. -/
def primaryPath (c : Compiler) (base : Path) : Path :=
  base.join c.config.primaryCompiler

/-- The response-file names that the legacy epoch tries: the configured one, then the one named
after the default compiler, unless they are the same. -/
def candidates (c : Compiler) : List String :=
  let derived := c.layout.stem ++ ".rsp"
  if derived = c.config.responseFile then [c.config.responseFile]
  else [c.config.responseFile, derived]

/-- Choose the backend for a unit, looking under `base`. -/
def select (c : Compiler) (base : Path) (u : BuildUnit) : Plan Toolchain := do
  let primary := c.primaryPath base
  let subject := primary.text ++ " (target: " ++ u.target.name ++ ")"
  if ← Plan.look primary then
    Plan.note (.debug ("primary compiler found at " ++ subject))
    pure (.primary primary c.candidates)
  else
    Plan.note (.debug ("no primary compiler at " ++ subject))
    pure (.fallback c.candidates)

end Compiler

end CSharpBuild
