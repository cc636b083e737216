/-
The closed choices a build is made with: which generation of rules applies, which scripting runtime
the host has, where the library will run and which class libraries it is compiled against.

Each has one name that is written and, for some, further names that are read; `ofName?_name` says
that what is written is read back.
-/
namespace CSharpBuild

/-- Which generation of rules arranges the arguments. -/
inductive Epoch where
  | legacy
  | current
  deriving DecidableEq, Repr

namespace Epoch

/-- The name of an epoch. -/
def name : Epoch → String
  | .legacy => "legacy"
  | .current => "current"

/-- Read the name of an epoch. -/
def ofName? : String → Option Epoch
  | "legacy" => some .legacy
  | "current" => some .current
  | _ => none

theorem ofName?_name (e : Epoch) : ofName? e.name = some e := by cases e <;> rfl

end Epoch

/-- The scripting runtime of the host. -/
inductive Runtime where
  | legacy
  | latest
  deriving DecidableEq, Repr

namespace Runtime

/-- The name of a runtime. -/
def name : Runtime → String
  | .legacy => "legacy"
  | .latest => "latest"

/-- Read the name of a runtime. -/
def ofName? : String → Option Runtime
  | "legacy" | "net35" => some .legacy
  | "latest" => some .latest
  | _ => none

/-- The language version a runtime can execute. -/
def languageVersion : Runtime → String
  | .legacy => "4"
  | .latest => "6"

theorem ofName?_name (r : Runtime) : ofName? r.name = some r := by cases r <;> rfl

end Runtime

/-- Where the compiled library will run. -/
inductive Target where
  | editor
  | player
  | constrained
  deriving DecidableEq, Repr

namespace Target

/-- The name of a target. -/
def name : Target → String
  | .editor => "editor"
  | .player => "standalone-player"
  | .constrained => "constrained-runtime"

/-- Read the name of a target. -/
def ofName? : String → Option Target
  | "editor" => some .editor
  | "standalone-player" | "player" => some .player
  | "constrained-runtime" | "constrained" => some .constrained
  | _ => none

/-- Whether the library is loaded inside the editor. -/
def isEditor (t : Target) : Bool := t = .editor

theorem ofName?_name (t : Target) : ofName? t.name = some t := by cases t <;> rfl

end Target

/-- The class libraries a unit is compiled against. -/
inductive Profile where
  | net20
  | net20Subset
  | net46
  deriving DecidableEq, Repr

namespace Profile

/-- The name of a profile. -/
def name : Profile → String
  | .net20 => "2.0"
  | .net20Subset => "2.0-subset"
  | .net46 => "4.6"

/-- Read the name of a profile. -/
def ofName? : String → Option Profile
  | "2.0" | "net20" => some .net20
  | "2.0-subset" | "net20-subset" => some .net20Subset
  | "4.6" | "net46" => some .net46
  | _ => none

/-- All profiles. -/
def all : List Profile := [.net20, .net20Subset, .net46]

/-- Whether this is the full 2.0 profile. -/
def isBaseline (p : Profile) : Bool := p = .net20

/-- Whether this is the constrained part of the 2.0 profile. -/
def isSubset (p : Profile) : Bool := p = .net20Subset

/-- The obsolete response-file name that a profile may still use. -/
def obsoleteResponseFile? : Profile → Option String
  | .net20 => some "gmcs.rsp"
  | .net20Subset => some "smcs.rsp"
  | .net46 => none

theorem ofName?_name (p : Profile) : ofName? p.name = some p := by cases p <;> rfl

end Profile

end CSharpBuild
