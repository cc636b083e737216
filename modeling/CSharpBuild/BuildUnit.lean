/-
The compilation unit: the sources, references and defines that make one library. A `Draft` is a unit
as its author fills it in, in any order; `Draft.build` checks it once, and a `BuildUnit` carries the
proof, so that no later stage has to look again.

Either may have any kind of paths (`HostPath`); where nothing is said of it, they are texts.

Main statements: `Draft.fault?_eq_none_iff`, a draft has no fault exactly when it is well formed,
`Draft.build_of_wellFormed`, and `BuildUnit.uniqueDefines_eq_eraseDups`.
-/
import CSharpBuild.Failure
import CSharpBuild.HostPath
import CSharpBuild.Profile
import CSharpBuild.Text.Blank

namespace CSharpBuild

/-- A preprocessor symbol is not empty and has no blank and no semicolon in it. -/
def ValidSymbol (symbol : String) : Prop :=
  symbol ≠ "" ∧ ∀ c ∈ symbol.toList, Text.isBlank c = false ∧ c ≠ ';'

/-- Whether a text is a preprocessor symbol. -/
def isSymbol (symbol : String) : Bool :=
  symbol ≠ "" && symbol.toList.all fun c => !Text.isBlank c && c ≠ ';'

theorem isSymbol_iff {symbol : String} : isSymbol symbol = true ↔ ValidSymbol symbol := by
  simp [isSymbol, ValidSymbol]

instance (symbol : String) : Decidable (ValidSymbol symbol) :=
  decidable_of_iff _ isSymbol_iff

/-- A unit as it is being filled in. -/
structure Draft (P : Type := Path) where
  output : P
  sources : List P
  references : List P
  defines : List String
  target : Target
  development : Bool
  profile : Profile
  deriving DecidableEq, Repr

/-- The first thing wrong with a draft. -/
inductive Fault where
  | emptyOutput
  | emptySource (index : Nat)
  | emptyReference (index : Nat)
  | badDefine (symbol : String)
  deriving DecidableEq, Repr

namespace Fault

/-- The field a fault is in. -/
def field : Fault → String
  | .emptyOutput => "output"
  | .emptySource _ => "sources"
  | .emptyReference _ => "references"
  | .badDefine _ => "defines"

/-- What is wrong with the field. -/
def reason : Fault → String
  | .emptyOutput => "output path must not be empty"
  | .emptySource index => "source entry " ++ toString index ++ " is empty"
  | .emptyReference index => "reference entry " ++ toString index ++ " is empty"
  | .badDefine symbol => "`" ++ symbol ++ "` is not a valid preprocessor symbol"

/-- A fault as a failure of the build. -/
def failure (f : Fault) : Failure := .invalid f.field f.reason

end Fault

namespace Draft

variable {P : Type}

/-- A draft with nothing but an output. -/
def new (output : P) : Draft P :=
  ⟨output, [], [], [], .editor, false, .net20⟩

/-- One way to fill in a draft: the list fields grow at their end, by one entry or by many, and the
others are overwritten. -/
inductive Edit (P : Type := Path) where
  | source (path : P)
  | sources (paths : List P)
  | reference (path : P)
  | references (paths : List P)
  | define (symbol : String)
  | defines (symbols : List String)
  | target (target : Target)
  | development (development : Bool)
  | profile (profile : Profile)
  deriving DecidableEq, Repr

/-- Fill in a draft. -/
def apply (d : Draft P) : Edit P → Draft P
  | .source path => { d with sources := d.sources ++ [path] }
  | .sources paths => { d with sources := d.sources ++ paths }
  | .reference path => { d with references := d.references ++ [path] }
  | .references paths => { d with references := d.references ++ paths }
  | .define symbol => { d with defines := d.defines ++ [symbol] }
  | .defines symbols => { d with defines := d.defines ++ symbols }
  | .target target => { d with target := target }
  | .development development => { d with development := development }
  | .profile profile => { d with profile := profile }

/-- The draft that edits leave, made in turn on one with nothing but an output. -/
def ofEdits (output : P) (edits : List (Edit P)) : Draft P := edits.foldl apply (new output)

variable [HostPath P]

/-- What a draft must satisfy to become a unit. -/
def WellFormed (d : Draft P) : Prop :=
  HostPath.isEmpty d.output = false ∧ (∀ p ∈ d.sources, HostPath.isEmpty p = false) ∧
    (∀ p ∈ d.references, HostPath.isEmpty p = false) ∧ ∀ s ∈ d.defines, ValidSymbol s

/-- The first fault of a draft, looking at the output, the sources, the references and the defines
in this order and at each list from its start. -/
def fault? (d : Draft P) : Option Fault :=
  if HostPath.isEmpty d.output then some .emptyOutput
  else match d.sources.findIdx? HostPath.isEmpty with
    | some index => some (.emptySource index)
    | none => match d.references.findIdx? HostPath.isEmpty with
      | some index => some (.emptyReference index)
      | none => (d.defines.find? fun s => !isSymbol s).map .badDefine

theorem fault?_eq_none_iff {d : Draft P} : d.fault? = none ↔ d.WellFormed := by
  have hd : (d.defines.find? fun s => !isSymbol s) = none ↔ ∀ s ∈ d.defines, ValidSymbol s := by
    simp [List.find?_eq_none, isSymbol_iff]
  have hs := @List.findIdx?_eq_none_iff _ d.sources HostPath.isEmpty
  have hr := @List.findIdx?_eq_none_iff _ d.references HostPath.isEmpty
  rw [fault?, WellFormed, ← hs, ← hr, ← hd]
  cases HostPath.isEmpty d.output with
  | true => simp
  | false =>
    cases d.sources.findIdx? HostPath.isEmpty with
    | some index => simp
    | none =>
      cases d.references.findIdx? HostPath.isEmpty with
      | some index => simp
      | none => simp

end Draft

/-- A compilation unit: a draft that has been checked. -/
structure BuildUnit (P : Type := Path) [HostPath P] extends Draft P where
  wellFormed : toDraft.WellFormed
  deriving DecidableEq, Repr

namespace Draft

variable {P : Type} [HostPath P]

/-- Check a draft and make it a unit, or say what is wrong with it. -/
def build (d : Draft P) : Except Failure (BuildUnit P) :=
  match h : d.fault? with
  | none => .ok {
      output := d.output
      sources := d.sources
      references := d.references
      defines := d.defines
      target := d.target
      development := d.development
      profile := d.profile
      wellFormed := fault?_eq_none_iff.1 h }
  | some fault => .error fault.failure

theorem build_of_wellFormed {d : Draft P} (h : d.WellFormed) : d.build = .ok ⟨d, h⟩ := by
  rw [build]
  split
  · rfl
  · next fault hf => rw [fault?_eq_none_iff.2 h] at hf; cases hf

end Draft

namespace BuildUnit

/-- The entries that have not been seen, each where it stands first. What is taken counts as seen
from there on. -/
def unseen (seen : List String) : List String → List String
  | [] => []
  | symbol :: rest =>
    if symbol ∈ seen then unseen seen rest else symbol :: unseen (symbol :: seen) rest

theorem unseen_eq_eraseDups (seen symbols : List String) :
    unseen seen symbols = (symbols.filter (· ∉ seen)).eraseDups := by
  induction symbols generalizing seen with
  | nil => simp [unseen]
  | cons symbol rest ih =>
    by_cases h : symbol ∈ seen
    · rw [unseen, if_pos h, ih, List.filter_cons_of_neg (by simpa using h)]
    · -- What `eraseDups` drops behind `symbol` is what has been seen since.
      have hlater : rest.filter (· ∉ symbol :: seen) =
          (rest.filter (· ∉ seen)).filter fun later => !later == symbol := by
        rw [List.filter_filter]
        congr 1
        funext later
        by_cases hl : later = symbol <;> simp [hl]
      rw [unseen, if_neg h, ih, List.filter_cons_of_pos (by simpa using h), List.eraseDups_cons,
        hlater]

/-- The defines without repetitions, each where it stands first. -/
def uniqueDefines (u : BuildUnit) : List String := unseen [] u.defines

theorem uniqueDefines_eq_eraseDups (u : BuildUnit) : u.uniqueDefines = u.defines.eraseDups := by
  rw [uniqueDefines, unseen_eq_eraseDups, List.filter_eq_self.2 (by simp)]

/-- A library is optimised unless it is a development build for the editor. -/
def wantsOptimization (u : BuildUnit) : Bool :=
  !(u.development && u.target.isEditor)

end BuildUnit

end CSharpBuild
