/-
What the child process receives. Composed tokens carry paths quoted, the process id is put between
them, a launcher or the host's default command stands in front, and at the start of the child every
token is resolved. `prepare_delivers` follows an argument through all of this: each path of the unit
and each file that was found arrives in its place, as it was written.
-/
import CSharpBuild.Proofs.Grammar
import CSharpBuild.Proofs.Preparation
import CSharpBuild.Proofs.Quoting

namespace CSharpBuild

open Text

namespace Arg

/-- What the child receives for an argument. Symbols are not quoted, so they are resolved like the
rest of a token. -/
def received : Arg → String
  | .language runtime => "-langversion:" ++ runtime.languageVersion
  | .output path => "-out:" ++ path.text
  | .reference path => "-r:" ++ path.text
  | .define symbol => "-define:" ++ Token.unquote symbol
  | .source path => path.text
  | .response path => "@" ++ path.text
  | flag => flag.head

theorem unquote_token (a : Arg) : Token.unquote a.token = a.received := by
  cases a with
  | debug | library | noWarn | pointers | optimize => exact Token.unquote_of_plain (by decide)
  | language runtime => cases runtime <;> exact Token.unquote_of_plain (by decide)
  | define symbol => exact Token.unquote_append_of_plain (by decide) symbol
  | source path => exact Token.unquote_quote path
  | output path | reference path | response path =>
    exact Token.unquote_append_quote (by decide) path

theorem map_unquote_token (args : List Arg) :
    (args.map token).map Token.unquote = args.map received := by
  rw [List.map_map]
  exact List.map_congr_left fun a _ => a.unquote_token

end Arg

namespace Compiler

variable {c : Compiler} {u : BuildUnit}

/-! ## The process id -/

theorem insertBeforeResponseFile_append {token : String} {body : List String}
    {last : Option String} (hbody : ∀ t ∈ body, startsWith t "@" = false)
    (hlast : ∀ t ∈ last, startsWith t "@" = true) :
    insertBeforeResponseFile token (body ++ last.toList) = body ++ token :: last.toList := by
  induction body with
  | nil =>
    cases last with
    | none => rfl
    | some t => simp [insertBeforeResponseFile, hlast t rfl]
  | cons arg body ih =>
    have harg : startsWith arg "@" = false := hbody arg List.mem_cons_self
    rw [List.cons_append, insertBeforeResponseFile, if_neg (by simp [harg]),
      ih fun t ht => hbody t (List.mem_cons_of_mem arg ht)]
    rfl

/-- The symbols that the primary compiler gets from its host. -/
def hostSymbols (c : Compiler) : List String :=
  c.config.processIdDefine.toList.map (· ++ toString c.processId)

theorem identified_append {body : List String} {last : Option String}
    (hbody : ∀ t ∈ body, startsWith t "@" = false) (hlast : ∀ t ∈ last, startsWith t "@" = true) :
    c.identified (body ++ last.toList) = body ++ c.hostSymbols.map defineToken ++ last.toList := by
  rw [identified, hostSymbols]
  cases c.config.processIdDefine with
  | none => simp
  | some symbol =>
    simp [insertBeforeResponseFile_append hbody hlast, processIdToken, defineToken,
      String.append_assoc]

end Compiler

namespace Findings

variable {f : Findings} {c : Compiler} {u : BuildUnit} {epoch : Epoch}

/-- The arguments of a composition with more defines before the response file. -/
def settled (f : Findings) (c : Compiler) (u : BuildUnit) (epoch : Epoch) (symbols : List String) :
    List Arg :=
  f.body c u epoch ++ symbols.map Arg.define
    ++ f.merged.toList.map fun name => Arg.response (c.config.responseToken name)

theorem args_eq_settled : f.args c u epoch = (f.settled c u epoch []).map Arg.token := by
  rw [args_eq, meant, settled, List.map_nil, List.append_nil]

theorem head_body : ∀ a ∈ f.body c u epoch, a.head ≠ "@" := by
  have hleading : ∀ a ∈ c.leadingArgs u epoch, a.head ≠ "@" := fun a ha heq =>
    absurd (heq ▸ Compiler.head_leadingArgs a ha) (by decide : "@" ∉ Arg.leadingHeads)
  simp only [body, List.forall_mem_append, List.forall_mem_map]
  exact ⟨⟨⟨⟨hleading, by simp [Arg.head]⟩, by simp [Arg.head]⟩, by simp [Arg.head]⟩,
    by simp [Arg.head]⟩

/-- Before the response file no token begins like one. -/
theorem startsWith_body :
    ∀ t ∈ (f.body c u epoch).map Arg.token, startsWith t "@" = false := by
  intro t ht
  obtain ⟨a, ha, rfl⟩ := List.mem_map.1 ht
  rw [a.startsWith_token (by decide), decide_eq_false (head_body a ha)]

theorem startsWith_responseFileToken :
    ∀ t ∈ f.merged.map c.responseFileToken, startsWith t "@" = true := by
  intro t ht
  obtain ⟨name, -, rfl⟩ := Option.map_eq_some_iff.1 ht
  exact startsWith_append_of_startsWith (by decide) _

theorem identified_args :
    c.identified (f.args c u epoch) = (f.settled c u epoch c.hostSymbols).map Arg.token := by
  rw [args_eq_body, Compiler.identified_append startsWith_body startsWith_responseFileToken, settled,
    List.map_append, List.map_append, List.map_map, List.map_map, Option.toList_map]
  rfl

theorem received_settled (symbols : List String) :
    (f.settled c u epoch symbols).map Arg.received =
      ["-debug", "-target:library", "-nowarn:0169"]
        ++ (if epoch = .current then ["-langversion:" ++ c.config.runtime.languageVersion] else [])
        ++ ["-out:" ++ u.output.text, "-unsafe"]
        ++ (if epoch = .current ∧ u.wantsOptimization then ["-optimize"] else [])
        ++ u.references.map (fun path => "-r:" ++ path.text)
        ++ u.uniqueDefines.map (fun symbol => "-define:" ++ Token.unquote symbol)
        ++ u.sources.map (·.text)
        ++ f.present.map (fun path => "-r:" ++ path.text)
        ++ symbols.map (fun symbol => "-define:" ++ Token.unquote symbol)
        ++ f.merged.toList.map (fun name => "@" ++ (c.config.responseToken name).text) := by
  simp only [settled, body, Compiler.leadingArgs, List.map_append, List.map_map,
    apply_ite (List.map Arg.received)]
  rfl

end Findings

namespace Compiler

variable {c : Compiler} {u : BuildUnit}

theorem args_primaryCommand (executable : Path) (args : List String) :
    (c.primaryCommand executable args).args =
      c.config.launcher.toList.map (fun _ => Token.quote executable) ++ c.identified args := by
  rw [primaryCommand]
  cases c.config.launcher <;> rfl

/-- **Every path arrives.** Each token of a prepared command becomes one argument of the child, in
its place. Behind the launcher's argument, or behind those of the host's default command, the child
receives what the unit lists and what the looks found, as it is written. -/
theorem prepare_delivers {σ : Type} (host : Host σ) (s : σ) (c : Compiler) (u : BuildUnit)
    {p : Prepared} (h : ((c.prepare u).execute host s).value = .ok p) :
    let x := (c.prepare u).execute host s
    let child := p.command.invocation
    let place := c.primaryPath c.config.projectRoot
    child.program = p.command.program ∧ child.cwd = p.command.cwd ∧
    child.args.length = p.command.args.length ∧
    (∀ n : Nat, child.args[n]? = p.command.args[n]?.map Token.unquote) ∧
    (∀ executable ∈ p.toolchain.executable, c.config.launcher.isSome →
      child.args.head? = some executable.text) ∧
    ∃ found, ∃ f : Findings, f.Fits c u c.config.epoch (c.selected c.config.projectRoot found) ∧
      x.looks = (place, found) :: f.looks c ∧
      ∃ lead own, p.command.args = lead ++ own ∧
        (if p.toolchain.isPrimary then
            lead = c.config.launcher.toList.map fun _ => Token.quote place
          else ∃ default, x.defaults = [.ok default] ∧ lead = default.args) ∧
        own.map Token.unquote =
          ["-debug", "-target:library", "-nowarn:0169"]
            ++ (if c.config.epoch = .current then
                ["-langversion:" ++ c.config.runtime.languageVersion] else [])
            ++ ["-out:" ++ u.output.text, "-unsafe"]
            ++ (if c.config.epoch = .current ∧ u.wantsOptimization then ["-optimize"] else [])
            ++ u.references.map (fun path => "-r:" ++ path.text)
            ++ u.uniqueDefines.map (fun symbol => "-define:" ++ Token.unquote symbol)
            ++ u.sources.map (·.text)
            ++ f.present.map (fun path => "-r:" ++ path.text)
            ++ (if p.toolchain.isPrimary then c.hostSymbols else []).map
                (fun symbol => "-define:" ++ Token.unquote symbol)
            ++ f.merged.toList.map (fun name => "@" ++ (c.config.responseToken name).text) := by
  obtain ⟨found, f, hf, -, hlooks, -, hcase⟩ := exists_preparation host s c u
  intro x child place
  have hreceived (symbols : List String) :
      ((f.settled c u c.config.epoch symbols).map Arg.token).map Token.unquote =
        (f.settled c u c.config.epoch symbols).map Arg.received := by
    rw [List.map_map]
    exact List.map_congr_left fun a _ => a.unquote_token
  refine ⟨rfl, rfl, List.length_map .., fun n => List.getElem?_map .., ?_⟩
  rcases hcase with ⟨-, -, hvalue⟩ | ⟨-, answer, hdefaults, hvalue⟩
  · cases hvalue.symm.trans h
    have hargs := args_primaryCommand (c := c) place (f.args c u c.config.epoch)
    refine ⟨?_, found, f, hf, hlooks, _, _, hargs, rfl, ?_⟩
    · rintro executable ⟨⟩ hlauncher
      obtain ⟨launcher, hlauncher⟩ := Option.isSome_iff_exists.1 hlauncher
      have hhead : child.args.head? = some (Token.unquote (Token.quote place)) := by
        rw [hlauncher] at hargs
        exact congrArg (fun args => (args.map Token.unquote).head?) hargs
      rw [hhead, Token.unquote_quote]
    · rw [Findings.identified_args, hreceived, Findings.received_settled]
      rfl
  · cases answer with
    | error failure => cases hvalue.symm.trans h
    | ok default =>
      cases hvalue.symm.trans h
      refine ⟨by rintro executable ⟨⟩, found, f, hf, hlooks, _, _, rfl,
        ⟨default, hdefaults, rfl⟩, ?_⟩
      rw [Findings.args_eq_settled, hreceived, Findings.received_settled]
      rfl

/-- A unit and a project whose paths have spaces, quotes and backslashes in them, against a host
that finds every file: the launcher is given the compiler's path as it is. -/
theorem prepare_delivers_awkward_paths :
    let host : Host Unit :=
      ⟨fun _ s => ⟨true, [], s⟩, fun s => ⟨.ok ⟨⟨"mcs"⟩, [], none⟩, [], s⟩,
        fun _ s => ⟨.error "not run", [], s⟩⟩
    let layout : Layout := ⟨fun _ => ["System Core.dll"], fun _ => ⟨"lib"⟩, ⟨"lib"⟩, "mcs"⟩
    let c : Compiler :=
      ⟨{ Config.ofRoot ⟨"My \"Game\"\\"⟩ with launcher := some ⟨"mono"⟩ }, layout, 42⟩
    let u : BuildUnit :=
      ⟨⟨⟨"Out\\My Lib\\"⟩, [⟨"A \\\"B.cs"⟩], [⟨"\\\\share\\\""⟩], ["DEBUG"], .editor, true,
        .net20⟩, Draft.fault?_eq_none_iff.1 (by decide)⟩
    ∃ p, ((c.prepare u).execute host ()).value = .ok p ∧
      p.command.invocation.args.head? =
        some "My \"Game\"\\/Compiler/UniversalCompiler.exe" := by
  intro host layout c u
  have hvalue : ((c.prepare u).execute host ()).value = .ok _ := rfl
  obtain ⟨-, -, -, -, hlauncher, -⟩ := prepare_delivers host () c u hvalue
  have hplace : (c.primaryPath c.config.projectRoot).text =
      "My \"Game\"\\/Compiler/UniversalCompiler.exe" := by decide
  exact ⟨_, hvalue, hplace ▸ hlauncher (c.primaryPath c.config.projectRoot) rfl rfl⟩

end Compiler

end CSharpBuild
