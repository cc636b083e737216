/-
The resolved configuration of a driver: settings with every default filled in, for one project.

`Config.ofSettings` fills in the defaults. `responseToken` is a response file as the command line
names it, seen from the project root, where the compiler runs; `responseDisk` is the same file as
the driver itself looks for it.
-/
import CSharpBuild.Settings

namespace CSharpBuild

/-- A configuration without gaps. -/
structure Config where
  projectRoot : Path
  epoch : Epoch
  runtime : Runtime
  primaryCompiler : Path
  launcher : Option Path
  responseFile : String
  responseDir : Option Path
  processIdDefine : Option String
  deriving DecidableEq, Repr

namespace Config

/-- The symbol that carries the process id unless the settings say otherwise. -/
def defaultProcessIdDefine : String := "__UNITY_PROCESSID__"

/-- The defaults for a project. -/
def ofRoot (root : Path) : Config where
  projectRoot := root
  epoch := .current
  runtime := .latest
  primaryCompiler := ⟨"Compiler/UniversalCompiler.exe"⟩
  launcher := none
  responseFile := "mcs.rsp"
  responseDir := none
  processIdDefine := some defaultProcessIdDefine

/-- The settings of a project on top of the defaults. An empty symbol for the process id turns that
define off. -/
def ofSettings (root : Path) (s : Settings) : Config where
  projectRoot := root
  epoch := s.epoch.getD (ofRoot root).epoch
  runtime := s.runtime.getD (ofRoot root).runtime
  primaryCompiler := s.primaryCompiler.getD (ofRoot root).primaryCompiler
  launcher := s.launcher
  responseFile := s.responseFile.getD (ofRoot root).responseFile
  responseDir := s.responseDir
  processIdDefine :=
    match s.processIdDefine with
    | none => (ofRoot root).processIdDefine
    | some symbol => if symbol.isEmpty then none else some symbol

/-- A response file as the command line names it. -/
def responseToken (c : Config) (name : String) : Path :=
  match c.responseDir with
  | some dir => dir.join ⟨name⟩
  | none => ⟨name⟩

/-- A response file on disk. -/
def responseDisk (c : Config) (name : String) : Path :=
  c.projectRoot.join (c.responseToken name)

/-- Where a home or project directory keeps its configuration. -/
def directoryIn (dir : Path) : Path := dir.join ⟨".switchyard"⟩

/-- Where the configuration file of a home or project directory stands. -/
def fileIn (dir : Path) : Path := (directoryIn dir).join ⟨"config.toml"⟩

/-- A text in double quotes, with a backslash before every quote and every backslash. -/
def quoted (text : String) : String :=
  "\"" ++ String.ofList (text.toList.flatMap fun c => if c = '"' ∨ c = '\\' then ['\\', c] else [c])
    ++ "\""

/-- An optional text, as a description shows it. -/
def quotedOption : Option String → String
  | none => "None"
  | some text => "Some(" ++ quoted text ++ ")"

/-- A description of the configuration on one line, for a host that prints its driver. -/
def describe (c : Config) : String :=
  "CompilerDriver \x7b config: DriverConfig \x7b project_root: " ++ quoted c.projectRoot.text
    ++ ", epoch: " ++ (match c.epoch with | .legacy => "Legacy" | .current => "Current")
    ++ ", runtime_version: " ++ (match c.runtime with | .legacy => "Legacy" | .latest => "Latest")
    ++ ", primary_compiler: " ++ quoted c.primaryCompiler.text
    ++ ", launcher: " ++ quotedOption (c.launcher.map Path.text)
    ++ ", response_file: " ++ quoted c.responseFile
    ++ ", response_dir: " ++ quotedOption (c.responseDir.map Path.text)
    ++ ", process_id_define: " ++ quotedOption c.processIdDefine ++ " \x7d, .. \x7d"

end Config

end CSharpBuild
