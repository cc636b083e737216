/-
Ready-made collaborators for tests: a host compiler with a fixed layout under `/mono`, and a small
unit for the editor.
-/
import CSharpBuild.BuildUnit
import CSharpBuild.Toolchain

namespace CSharpBuild.Doubles

/-- A host compiler that exists on paper only. -/
structure SampleCompiler where
  references : Profile → List String
  referenceRoot : Path
  stem : String
  default : Except Failure Command

namespace SampleCompiler

/-- The default compiler command under `/mono`. -/
def monoCommand : Command := ⟨⟨"/mono/bin/mono"⟩, ["\"/mono/lib/mono/4.5/mcs.exe\""], none⟩

/-- The reason of a host that has no default compiler. -/
def noDefault : Failure := .noDefaultCompiler "stub has no default compiler"

/-- The host compiler under `/mono`. -/
def standard : SampleCompiler where
  references := fun _ => ["System.Xml.Linq.dll"]
  referenceRoot := ⟨"/mono/lib/mono"⟩
  stem := "mcs"
  default := .ok monoCommand

/-- Every profile has a directory of its name under the reference root. -/
def layout (s : SampleCompiler) : Layout where
  additional := s.references
  profileDirectory := fun p => s.referenceRoot.join ⟨p.name⟩
  referenceRoot := s.referenceRoot
  stem := s.stem

end SampleCompiler

/-- The fields of the sample unit. -/
def sampleDraft : Draft where
  output := ⟨"Library/Scripts/Game.dll"⟩
  sources := [⟨"Assets/Player.cs"⟩, ⟨"Assets/Enemy.cs"⟩]
  references := [⟨"Library/Engine.dll"⟩]
  defines := ["DEBUG"]
  target := .editor
  development := false
  profile := .net20

/-- A small unit with two sources and one reference. -/
def sampleUnit : BuildUnit where
  toDraft := sampleDraft
  wellFormed := Draft.fault?_eq_none_iff.1 (by decide)

end CSharpBuild.Doubles
