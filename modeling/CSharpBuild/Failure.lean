/-
Everything that can go wrong with a build, one constructor for each cause, and the three texts that
a host may show of it: the message, a stable code and, for some, a hint.
-/
import CSharpBuild.Command

namespace CSharpBuild

/-- Why a build failed. -/
inductive Failure where
  /-- A field of a compilation unit is missing or malformed. -/
  | invalid (field reason : String)
  /-- A configuration file could not be read. -/
  | configUnreadable (path : Path)
  /-- A configuration file could be read but does not say anything sensible. -/
  | configMalformed (path : Path)
  /-- The host has no compiler of its own to fall back to. -/
  | noDefaultCompiler (reason : String)
  /-- Nothing is registered for the language. -/
  | unknownLanguage (language : String)
  /-- The compiler could not be started. -/
  | notStarted (program : Path) (cause : String)
  /-- The compiler ran and reported failure. -/
  | rejected (program : Path) (output : Output)
  deriving DecidableEq, Repr

namespace Failure

/-- How an exit code is worded. -/
def exitText : Option Int → String
  | some code => "exit code " ++ toString code
  | none => "no exit code (terminated by signal)"

/-- The message of a failure. -/
def message : Failure → String
  | .invalid field reason => "invalid compilation unit: " ++ field ++ ": " ++ reason
  | .configUnreadable path => "failed to read driver config: " ++ path.text
  | .configMalformed path => "failed to parse driver config: " ++ path.text
  | .noDefaultCompiler reason => "no fallback compiler available: " ++ reason
  | .unknownLanguage language => "no compiler provider registered for `" ++ language ++ "`"
  | .notStarted program _ => "failed to start `" ++ program.text ++ "`"
  | .rejected program output =>
    "`" ++ program.text ++ "` exited with " ++ exitText output.code

/-- The stable code of a failure. -/
def code : Failure → String
  | .invalid .. => "switchyard::config::invalid"
  | .configUnreadable _ => "switchyard::config::load"
  | .configMalformed _ => "switchyard::config::parse"
  | .noDefaultCompiler _ => "switchyard::toolchain::no_fallback"
  | .unknownLanguage _ => "switchyard::registry::unknown_language"
  | .notStarted .. => "switchyard::invoke::spawn"
  | .rejected .. => "switchyard::invoke::failed"

/-- What a host may suggest, where there is something to suggest. -/
def help : Failure → Option String
  | .configMalformed _ => some "Check the file against the documented `[driver]` keys"
  | .noDefaultCompiler _ =>
    some "Install Mono or set MONO_PREFIX so the default compiler can be found"
  | .rejected .. => some "Check the compiler output for the first error"
  | _ => none

end Failure

end CSharpBuild
