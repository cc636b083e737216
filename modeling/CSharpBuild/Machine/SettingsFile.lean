/-
The configuration files of a machine, and those of its user.
-/
import CSharpBuild.Machine.Basic
import CSharpBuild.SettingsFile
import CSharpBuild.Toml

namespace CSharpBuild.Machine

open Text

/-- What a machine tells of configuration files. They are in TOML. -/
def settingsFiles (m : Machine) : SettingsFiles where
  holds := m.holds
  text? path := do
    let octets ← (m.disk.read m.cwd (Octets.ofText path.text)).toOption
    Utf8.decode? (Octets.toBytes octets)
  document? := Toml.read?

/-- The configuration file of the user. -/
def globalSettingsFile (m : Machine) : Path := Config.fileIn m.home

/-- The configuration of a project. -/
def projectConfig (m : Machine) (root : Path) : Config × List LogEntry :=
  m.settingsFiles.project (some m.home) root

end CSharpBuild.Machine
