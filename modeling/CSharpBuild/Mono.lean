/-
Mono installations. Two of them stand side by side: the classic one with the class libraries of the
2.0 era, and a newer one with those of 4.x, the `2.0-api` reference assemblies and the compiler that
the host falls back to.
-/
import CSharpBuild.Failure
import CSharpBuild.Toolchain

namespace CSharpBuild

/-- The two roots of an installation and the framework references it offers. -/
structure Mono where
  classic : Path
  bleedingEdge : Path
  references : List String
  deriving DecidableEq, Repr

namespace Mono

/-- The framework references every profile asks for unless told otherwise. -/
def defaultReferences : List String :=
  ["System.Runtime.Serialization.dll", "System.Xml.Linq.dll"]

/-- An installation with both parts under one root. -/
def single (root : Path) : Mono := ⟨root, root, defaultReferences⟩

/-- Where the class libraries stand under a root. -/
def libraries (root : Path) : Path := (root.join ⟨"lib"⟩).join ⟨"mono"⟩

/-- The folder of a profile's class libraries. -/
def profileFolder : Profile → String
  | .net20 => "2.0"
  | .net20Subset => "unity"
  | .net46 => "4.5"

/-- The class library directory of a profile; only the 4.x one is in the newer installation. -/
def profileDirectory (m : Mono) (p : Profile) : Path :=
  (libraries (if p = .net46 then m.bleedingEdge else m.classic)).join ⟨profileFolder p⟩

/-- The assembly of the default compiler. -/
def compilerAssembly (m : Mono) : Path :=
  ((libraries m.bleedingEdge).join ⟨"4.5"⟩).join ⟨"mcs.exe"⟩

/-- The runtime that executes the compiler assembly. -/
def runtime (m : Mono) : Path := (m.bleedingEdge.join ⟨"bin"⟩).join ⟨"mono"⟩

/-- What an installation tells about its class libraries. -/
def layout (m : Mono) : Layout where
  additional := fun _ => m.references
  profileDirectory := m.profileDirectory
  referenceRoot := libraries m.bleedingEdge
  stem := "mcs"

/-- The default compiler command, given whether the compiler assembly is there. -/
def defaultCommand (m : Mono) (installed : Bool) : Except Failure Command :=
  if installed then .ok ⟨m.runtime, [Token.quote m.compilerAssembly], none⟩
  else .error (.noDefaultCompiler (m.compilerAssembly.text ++ " does not exist"))

end Mono

end CSharpBuild
