/-
The argument tokens of a unit, in their fixed order:

```text
-debug -target:library -nowarn:0169 [-langversion:N] -out:"<out>" -unsafe [-optimize]
-r:"<ref>"... -define:<symbol>... "<source>"... -r:"<implicit>"... [@"<rsp>"]
```

`unitTokens` is the part up to the sources, which needs nothing but the configuration and the unit.
The implicit references and the response file depend on files being there: `presentReferences` keeps
the framework references that exist, and at most one response file is merged, always last.

The current epoch takes the configured response file, and failing that the one obsolete name of the
profile, with a warning. The legacy epoch silently takes the first candidate that exists.
-/
import CSharpBuild.Compiler
import CSharpBuild.Text

namespace CSharpBuild

/-- What composing the arguments of a unit delivers: the toolchain that will run, the tokens and the
warnings on the way. -/
structure Composition where
  toolchain : Toolchain
  args : List String
  warnings : List Warning
  deriving DecidableEq, Repr

namespace Composition

/-- The text after `-out:` in the first token that starts with it. -/
def outputToken? (c : Composition) : Option String :=
  (c.args.find? (Text.startsWith · "-out:")).map fun token => String.ofList (token.toList.drop 5)

end Composition

/-- Raise a warning: log it and hand it on. -/
def Plan.raise (w : Warning) : Plan Warning := do
  Plan.note w.entry
  pure w

namespace Compiler

/-- The token of a reference. -/
def referenceToken (path : Path) : String := "-r:" ++ Token.quote path

/-- The token of a preprocessor symbol. -/
def defineToken (symbol : String) : String := "-define:" ++ symbol

/-- The tokens that depend on the configuration and the unit alone. -/
def unitTokens (c : Compiler) (u : BuildUnit) (epoch : Epoch) : List String :=
  ["-debug", "-target:library", "-nowarn:0169"]
    ++ (if epoch = .current then ["-langversion:" ++ c.config.runtime.languageVersion] else [])
    ++ ["-out:" ++ Token.quote u.output, "-unsafe"]
    ++ (if epoch = .current ∧ u.wantsOptimization then ["-optimize"] else [])
    ++ u.references.map referenceToken
    ++ u.uniqueDefines.map defineToken
    ++ u.sources.map Token.quote

/-- Look once more for the executable of the primary compiler. If it is gone the fallback takes
over, with a warning. -/
def recheck (t : Toolchain) : Plan (Toolchain × List Warning) :=
  match t.executable with
  | none => pure (t, [])
  | some executable =>
    if t.isPrimary then do
      if ← Plan.look executable then pure (t, [])
      else
        let warning ← Plan.raise (.compilerVanished executable)
        pure (t.demoted, [warning])
    else pure (t, [])

/-- The references in `directory` that are there, of those that are named. -/
def presentReferences (directory : Path) : List String → Plan (List Path)
  | [] => pure []
  | name :: names => do
    let path := directory.join ⟨name⟩
    if ← Plan.look path then
      let rest ← presentReferences directory names
      pure (path :: rest)
    else
      Plan.note (.debug ("skipping implicit reference " ++ path.text))
      presentReferences directory names

/-- The framework references of a profile that are there. -/
def implicitReferences (c : Compiler) (p : Profile) : Plan (List Path) :=
  presentReferences (c.layout.referenceDirectory p) (c.layout.additional p)

/-- Whether a response file is there. -/
def hasResponseFile (c : Compiler) (name : String) : Plan Bool := do
  let found ← Plan.look (c.config.responseDisk name)
  if found then pure true
  else
    Plan.note (.debug ("no response file " ++ name))
    pure false

/-- The first of the named response files that is there. -/
def firstResponseFile (c : Compiler) : List String → Plan (Option String)
  | [] => pure none
  | name :: names => do
    if ← c.hasResponseFile name then pure (some name) else c.firstResponseFile names

/-- The response file of the current epoch: the configured one, else the obsolete one of the
profile, whose use is warned about. -/
def currentResponseFile (c : Compiler) (p : Profile) : Plan (Option String × List Warning) := do
  if ← c.hasResponseFile c.config.responseFile then pure (some c.config.responseFile, [])
  else
    match p.obsoleteResponseFile? with
    | none => pure (none, [])
    | some obsolete =>
      if ← c.hasResponseFile obsolete then
        let warning ← Plan.raise
          (.obsoleteResponseFile obsolete c.config.responseFile (c.config.responseToken obsolete))
        pure (some obsolete, [warning])
      else pure (none, [])

/-- The response file to merge, and what there is to warn about. -/
def responseFile (c : Compiler) (u : BuildUnit) (epoch : Epoch) (t : Toolchain) :
    Plan (Option String × List Warning) :=
  match epoch with
  | .current => c.currentResponseFile u.profile
  | .legacy => do
    let name ← c.firstResponseFile t.candidates
    pure (name, [])

/-- The token that merges a response file. -/
def responseFileToken (c : Compiler) (name : String) : String :=
  "@" ++ Token.quote (c.config.responseToken name)

/-- Compose the arguments of a unit. -/
def compose (c : Compiler) (u : BuildUnit) (epoch : Epoch) (t : Toolchain) : Plan Composition := do
  let (toolchain, vanished) ← recheck t
  let references ← c.implicitReferences u.profile
  let (name, obsolete) ← c.responseFile u epoch toolchain
  pure {
    toolchain
    args := c.unitTokens u epoch ++ references.map referenceToken
      ++ (name.map c.responseFileToken).toList
    warnings := vanished ++ obsolete }

end Compiler

end CSharpBuild
