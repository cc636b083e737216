/-
Warnings: outcomes that a host should see though nothing failed. A warning travels with the result
it belongs to, and `Warning.entry` is what the log says of it.
-/
import CSharpBuild.Log

namespace CSharpBuild

/-- A warning: what happened, where, and what may be done about it. -/
structure Warning where
  message : String
  suggestions : List String
  location : Option Path
  deriving DecidableEq, Repr

namespace Warning

/-- The log entry of a warning. -/
def entry (w : Warning) : LogEntry := ⟨.warn, w.message, w.location⟩

/-- The word in front of a warning, in bold yellow on a terminal with colours. -/
def heading (colour : Bool) : String :=
  if colour then "\x1b[1;33mwarning\x1b[0m" else "warning"

/-- A warning as lines of text: the message, the place, then each suggestion. -/
def render (w : Warning) (colour : Bool) : String :=
  heading colour ++ ": " ++ w.message ++ "\n"
    ++ (w.location.elim "" fun place => "  --> " ++ place.text ++ "\n")
    ++ String.join (w.suggestions.map fun line => "  " ++ line ++ "\n")

instance : ToString Warning := ⟨fun w => w.render false⟩

/-- What to do about a missing primary compiler. -/
def installPrimary : String :=
  "help: Place the universal compiler under the configured `primary_compiler` path"

/-- The primary compiler was not where it is expected, so the host's own compiler is used. -/
def compilerNotFound (expected : Path) : Warning :=
  ⟨"Universal C# compiler not found in project directory. Use the default compiler",
    [installPrimary], some expected⟩

/-- The primary compiler was there when it was chosen and is gone now. -/
def compilerVanished (path : Path) : Warning :=
  ⟨"Universal C# compiler no longer found at " ++ path.text ++ ". Use the default compiler",
    [installPrimary], some path⟩

/-- A response file with an obsolete name was used in place of the configured one. -/
def obsoleteResponseFile (used preferred : String) (location : Path) : Warning :=
  ⟨"Using obsolete custom response file '" ++ used ++ "'. Please use '" ++ preferred
      ++ "' instead.",
    [], some location⟩

end Warning

end CSharpBuild
