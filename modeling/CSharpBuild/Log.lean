/-
What the library tells the log of its host: entries with a level, a message and, for a warning, the
place it is about.
-/
import CSharpBuild.Path

namespace CSharpBuild

/-- How urgent a log entry is. -/
inductive Level where
  | debug
  | info
  | warn
  deriving DecidableEq, Repr

/-- The rank of a level: a more urgent one is greater. -/
def Level.rank : Level → Nat
  | .debug => 0
  | .info => 1
  | .warn => 2

/-- One log entry. -/
structure LogEntry where
  level : Level
  message : String
  location : Option Path
  deriving DecidableEq, Repr

namespace LogEntry

/-- An entry without a place. -/
def debug (message : String) : LogEntry := ⟨.debug, message, none⟩

/-- An entry without a place. -/
def info (message : String) : LogEntry := ⟨.info, message, none⟩

/-- Whether an entry is at least as urgent as `level`. -/
def reaches (entry : LogEntry) (level : Level) : Bool := level.rank ≤ entry.level.rank

end LogEntry

end CSharpBuild
