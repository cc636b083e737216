import CSharpBuild.BuildUnit.Document
import CSharpBuild.Doubles.Bench
import CSharpBuild.Doubles.FileSet
import CSharpBuild.Doubles.RecordingRunner
import CSharpBuild.Doubles.Sample
import CSharpBuild.Machine.Host
import CSharpBuild.Machine.SettingsFile
import CSharpBuild.Mono
import CSharpBuild.Registry
import CSharpBuild.Proofs.Findings
import CSharpBuild.Proofs.Preparation
import CSharpBuild.Proofs.Grammar
import CSharpBuild.Proofs.Quoting
import CSharpBuild.Proofs.Probing
import CSharpBuild.Proofs.Backend
import CSharpBuild.Proofs.Arrival
import CSharpBuild.Proofs.Joining
import CSharpBuild.Proofs.Resolution
import CSharpBuild.Proofs.Reading
import CSharpBuild.Proofs.Symbols
import CSharpBuild.Proofs.Session
import CSharpBuild.Proofs.Reporting
import CSharpBuild.Proofs.Manifests
import CSharpBuild.Proofs.ByteOrder
import CSharpBuild.Proofs.Registrations
import CSharpBuild.Proofs.HostSymbol
import CSharpBuild.Proofs.Lines
import CSharpBuild.Proofs.Insertion
import CSharpBuild.Proofs.SymbolRule
import CSharpBuild.Proofs.Steadiness
import CSharpBuild.Proofs.Concealment
import CSharpBuild.Proofs.Deprecation
import CSharpBuild.Proofs.Epochs
import CSharpBuild.Proofs.Layering
import CSharpBuild.Proofs.Drafts
import CSharpBuild.Proofs.Repetitions
import CSharpBuild.Proofs.Runs
import CSharpBuild.Proofs.TreeChanges
import CSharpBuild.Proofs.Recordings
import CSharpBuild.Proofs.Handles
