/-
Toolchains: which compiler handles a unit. The primary compiler ships with the project and has an
executable that was found there; the fallback is the host's own compiler, whose executable the host
knows. `Layout` is what the host tells about its class libraries.
-/
import CSharpBuild.Path
import CSharpBuild.Profile

namespace CSharpBuild

/-- The two compilers a unit may be handed to. -/
inductive Backend where
  | primary
  | fallback
  deriving DecidableEq, Repr

/-- The name of a backend. -/
def Backend.name : Backend → String
  | .primary => "primary"
  | .fallback => "fallback"

/-- What was selected for one unit: the backend, its executable where it is known, and the
response-file names to try, in order. -/
structure Toolchain where
  backend : Backend
  executable : Option Path
  candidates : List String
  deriving DecidableEq, Repr

namespace Toolchain

/-- The primary compiler at `executable`. -/
def primary (executable : Path) (candidates : List String) : Toolchain :=
  ⟨.primary, some executable, candidates⟩

/-- The host's own compiler. -/
def fallback (candidates : List String) : Toolchain :=
  ⟨.fallback, none, candidates⟩

/-- Whether this is the primary compiler. -/
def isPrimary (t : Toolchain) : Bool := t.backend = .primary

/-- The same response-file names with the host's own compiler. -/
def demoted (t : Toolchain) : Toolchain := fallback t.candidates

end Toolchain

/-- What a host tells about its class libraries and its default compiler. -/
structure Layout where
  /-- Framework references a profile needs, relative to its reference directory. -/
  additional : Profile → List String
  /-- The class library directory of a profile. -/
  profileDirectory : Profile → Path
  /-- The directory that holds named reference profiles. -/
  referenceRoot : Path
  /-- The file name of the default compiler, without its extension. -/
  stem : String

namespace Layout

/-- The directory the framework references of a profile are taken from. Code for the baseline
profile is compiled against the reference assemblies in `2.0-api`. -/
def referenceDirectory (l : Layout) (p : Profile) : Path :=
  if p.isBaseline then l.referenceRoot.join ⟨"2.0-api"⟩ else l.profileDirectory p

end Layout

end CSharpBuild
