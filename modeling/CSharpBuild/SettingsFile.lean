/-
Configuration files. What is found under a path, and which document a text is, is for the host to
say (`SettingsFiles`); what a driver makes of it is not. A file that is missing sets nothing, and
one that cannot be used sets nothing either, but is reported (`SettingsFiles.loadOrDefault`).
-/
import CSharpBuild.Config
import CSharpBuild.Failure
import CSharpBuild.Log

namespace CSharpBuild

/-- What a driver is told of configuration files. -/
structure SettingsFiles where
  /-- Whether there is anything under a path. -/
  holds : Path → Bool
  /-- The text under a path, if there is one to be read. -/
  text? : Path → Option String
  /-- The document that a text is, if it is one. -/
  document? : String → Option Tree

namespace SettingsFiles

/-- Load a configuration file. -/
def load (files : SettingsFiles) (path : Path) : Except Failure Settings :=
  match files.text? path with
  | none => .error (.configUnreadable path)
  | some text =>
    match files.document? text >>= Settings.ofConfigFile? with
    | none => .error (.configMalformed path)
    | some settings => .ok settings

/-- Load a configuration file if it is there. One that cannot be used is the same as none, but for
the log. -/
def loadOrDefault (files : SettingsFiles) (path : Path) : Settings × List LogEntry :=
  if files.holds path then
    match files.load path with
    | .ok settings => (settings, [])
    | .error failure =>
      (.empty,
        [⟨.warn, "Failed to load config from " ++ path.text ++ ": " ++ failure.message, none⟩])
  else (.empty, [])

/-- The settings of a file on top of others, if it is there. -/
def mergeFile (files : SettingsFiles) (lower : Settings × List LogEntry) (path : Path) :
    Settings × List LogEntry :=
  if files.holds path then
    let upper := files.loadOrDefault path
    (lower.1.merge upper.1, lower.2 ++ upper.2)
  else lower

/-- The settings of two files, the second on top. -/
def layered (files : SettingsFiles) (global project : Path) : Settings × List LogEntry :=
  files.mergeFile (files.mergeFile (.empty, []) global) project

/-- The configuration of a project, on top of that in the home directory. Where that is not known,
nothing is under the empty path that stands for its file. -/
def project (files : SettingsFiles) (home : Option Path) (root : Path) :
    Config × List LogEntry :=
  let found := files.layered (home.elim ⟨""⟩ Config.fileIn) (Config.fileIn root)
  (Config.ofSettings root found.1, found.2)

end SettingsFiles

end CSharpBuild
