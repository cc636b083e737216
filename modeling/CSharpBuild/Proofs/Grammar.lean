/-
The grammar of argument tokens. An `Arg` is what a token is meant as, `Arg.token` how it is written:
behind a head that all tokens of its kind share.

No head begins another (`heads_incomparable`). So the beginning of a token tells what it is meant as
whatever path, symbol or name follows (`startsWith_token`), and picking the tokens with one head
picks the arguments of one kind (`filter_token`). `compose_unambiguous` reads a whole composition in
this way.
-/
import CSharpBuild.Proofs.Findings

namespace CSharpBuild

open Text

namespace Text

theorem startsWith_append_of_startsWith {head piece : String} (h : startsWith head piece = true)
    (rest : String) : startsWith (head ++ rest) piece = true := by
  obtain ⟨more, rfl⟩ := startsWith_iff.1 h
  exact startsWith_iff.2 ⟨more ++ rest, String.append_assoc⟩

/-- Of two texts that begin the same text, one begins the other. -/
theorem startsWith_or_startsWith {head rest piece : String}
    (h : startsWith (head ++ rest) piece = true) :
    startsWith head piece = true ∨ startsWith piece head = true := by
  simp only [startsWith, List.isPrefixOf_iff_prefix, String.toList_append] at h ⊢
  exact List.prefix_or_prefix_of_prefix h (List.prefix_append _ _)

theorem exists_startsWith_iff {tokens : List String} {head : String} :
    (∃ token ∈ tokens, startsWith token head = true) ↔ tokens.filter (startsWith · head) ≠ [] := by
  simp [List.filter_eq_nil_iff]

end Text

/-- What an argument token is meant as. -/
inductive Arg where
  | debug
  | library
  | noWarn
  | language (runtime : Runtime)
  | output (path : Path)
  | pointers
  | optimize
  | reference (path : Path)
  | define (symbol : String)
  | source (path : Path)
  | response (path : Path)
  deriving DecidableEq, Repr

namespace Arg

/-- How every token of a kind begins. -/
def head : Arg → String
  | .debug => "-debug"
  | .library => "-target:library"
  | .noWarn => "-nowarn:0169"
  | .language _ => "-langversion:"
  | .output _ => "-out:"
  | .pointers => "-unsafe"
  | .optimize => "-optimize"
  | .reference _ => "-r:"
  | .define _ => "-define:"
  | .source _ => "\""
  | .response _ => "@"

/-- An argument as a command-line token. -/
def token : Arg → String
  | .language runtime => "-langversion:" ++ runtime.languageVersion
  | .output path => "-out:" ++ Token.quote path
  | .reference path => Compiler.referenceToken path
  | .define symbol => Compiler.defineToken symbol
  | .source path => Token.quote path
  | .response path => "@" ++ Token.quote path
  | flag => flag.head

@[simp] theorem token_reference (path : Path) :
    (reference path).token = "-r:" ++ Token.quote path := rfl

@[simp] theorem token_define (symbol : String) : (define symbol).token = "-define:" ++ symbol := rfl

@[simp] theorem token_source (path : Path) : (source path).token = Token.quote path := rfl

@[simp] theorem token_response (path : Path) : (response path).token = "@" ++ Token.quote path := rfl

/-- The heads of the kinds that do not carry what a unit lists. -/
def leadingHeads : List String :=
  ["-debug", "-target:library", "-nowarn:0169", "-langversion:", "-out:", "-unsafe", "-optimize"]

/-- The heads of all kinds. -/
def heads : List String := leadingHeads ++ ["-r:", "-define:", "\"", "@"]

theorem head_mem_heads (a : Arg) : a.head ∈ heads := by
  cases a <;> simp [head, heads, leadingHeads]

theorem heads_incomparable : ∀ h ∈ heads, ∀ k ∈ heads, startsWith h k = true → h = k := by decide

theorem exists_token_eq (a : Arg) : ∃ rest, a.token = a.head ++ rest := by
  cases a with
  | source path =>
    refine ⟨String.ofList (Token.quoteFrom 0 path.text.toList ++ ['"']), ?_⟩
    apply String.toList_injective
    simp [token, head, Token.quoteChars]
  | language | output | reference | define | response => exact ⟨_, rfl⟩
  | debug | library | noWarn | pointers | optimize => exact ⟨"", by simp [token, head]⟩

/-- **A token begins with the head of its kind and with no other.** -/
theorem startsWith_token (a : Arg) {h : String} (hh : h ∈ heads) :
    startsWith a.token h = decide (a.head = h) := by
  obtain ⟨rest, hrest⟩ := a.exists_token_eq
  rw [hrest]
  by_cases heq : a.head = h
  · have hself : startsWith h h = true := startsWith_iff.2 ⟨"", by simp⟩
    rw [decide_eq_true heq, heq, startsWith_append_of_startsWith hself]
  · rw [decide_eq_false heq, Bool.eq_false_iff]
    intro hstart
    -- Both heads begin the token, so one of them begins the other.
    rcases startsWith_or_startsWith hstart with hle | hge
    · exact heq (heads_incomparable _ a.head_mem_heads _ hh hle)
    · exact heq (heads_incomparable _ hh _ a.head_mem_heads hge).symm

theorem filter_token (args : List Arg) {h : String} (hh : h ∈ heads) :
    (args.map token).filter (startsWith · h) =
      (args.filter fun a => a.head = h).map token := by
  rw [List.filter_map]
  congr 1
  exact List.filter_congr fun a _ => startsWith_token a hh

/-- Of arguments that are all of one kind, a head picks all or none. -/
theorem filter_head_map {α : Type} (kind : α → Arg) (k : String) (hk : ∀ a, (kind a).head = k)
    (xs : List α) (h : String) :
    (xs.map kind).filter (fun a => a.head = h) = if k = h then xs.map kind else [] := by
  rw [List.filter_map]
  split
  · next heq => rw [List.filter_eq_self.2 fun a _ => by simp [hk, heq]]
  · next hne => rw [List.filter_eq_nil_iff.2 fun a _ => by simp [hk, hne], List.map_nil]

end Arg

/-! ## The arguments of a composition -/

namespace Compiler

/-- The arguments that do not carry what the unit lists. -/
def leadingArgs (c : Compiler) (u : BuildUnit) (epoch : Epoch) : List Arg :=
  [.debug, .library, .noWarn]
    ++ (if epoch = .current then [.language c.config.runtime] else [])
    ++ [.output u.output, .pointers]
    ++ (if epoch = .current ∧ u.wantsOptimization then [.optimize] else [])

theorem head_leadingArgs {c : Compiler} {u : BuildUnit} {epoch : Epoch} :
    ∀ a ∈ c.leadingArgs u epoch, a.head ∈ Arg.leadingHeads := by
  cases epoch <;> cases h : u.wantsOptimization <;>
    simp [leadingArgs, Arg.head, Arg.leadingHeads, h]

theorem filter_leadingArgs {c : Compiler} {u : BuildUnit} {epoch : Epoch} {h : String}
    (hh : h ∉ Arg.leadingHeads) : (c.leadingArgs u epoch).filter (fun a => a.head = h) = [] := by
  rw [List.filter_eq_nil_iff]
  intro a ha heq
  exact hh (of_decide_eq_true heq ▸ head_leadingArgs a ha)

theorem unitTokens_eq (c : Compiler) (u : BuildUnit) (epoch : Epoch) :
    c.unitTokens u epoch = (c.leadingArgs u epoch ++ u.references.map Arg.reference
      ++ u.uniqueDefines.map Arg.define ++ u.sources.map Arg.source).map Arg.token := by
  simp only [unitTokens, leadingArgs, List.map_append, List.map_map, apply_ite (List.map Arg.token)]
  rfl

end Compiler

namespace Findings

variable (f : Findings) (c : Compiler) (u : BuildUnit) (epoch : Epoch)

/-- What the arguments before the response file are meant as. -/
def body : List Arg :=
  c.leadingArgs u epoch ++ u.references.map Arg.reference ++ u.uniqueDefines.map Arg.define
    ++ u.sources.map Arg.source ++ f.present.map Arg.reference

/-- What the arguments of a composition are meant as. -/
def meant : List Arg :=
  f.body c u epoch ++ f.merged.toList.map fun name => Arg.response (c.config.responseToken name)

theorem args_eq_body : f.args c u epoch =
    (f.body c u epoch).map Arg.token ++ (f.merged.map c.responseFileToken).toList := by
  simp only [args, body, Compiler.unitTokens_eq, List.map_append, List.map_map]
  rfl

theorem args_eq : f.args c u epoch = (f.meant c u epoch).map Arg.token := by
  rw [args_eq_body, meant, List.map_append, Option.toList_map, List.map_map]
  rfl

/-- The arguments of one kind, in the order they have in a composition. -/
theorem filter_meant (h : String) :
    (f.meant c u epoch).filter (fun a => a.head = h) =
      (c.leadingArgs u epoch).filter (fun a => a.head = h)
        ++ (if "-r:" = h then u.references.map .reference else [])
        ++ (if "-define:" = h then u.uniqueDefines.map .define else [])
        ++ (if "\"" = h then u.sources.map .source else [])
        ++ (if "-r:" = h then f.present.map .reference else [])
        ++ (if "@" = h then f.merged.toList.map (fun name => .response (c.config.responseToken name))
            else []) := by
  have hreferences := Arg.filter_head_map Arg.reference "-r:" fun _ => rfl
  have hdefines := Arg.filter_head_map Arg.define "-define:" fun _ => rfl
  have hsources := Arg.filter_head_map Arg.source "\"" fun _ => rfl
  have hresponses := Arg.filter_head_map (fun name => Arg.response (c.config.responseToken name)) "@"
    fun _ => rfl
  simp only [meant, body, List.filter_append, hreferences, hdefines, hsources, hresponses]

/-- The tokens of one kind are the arguments of this kind. -/
theorem filter_args {h : String} (hh : h ∈ Arg.heads) :
    (f.args c u epoch).filter (startsWith · h) =
      ((f.meant c u epoch).filter fun a => a.head = h).map Arg.token := by
  rw [args_eq, Arg.filter_token _ hh]

theorem filter_args_output :
    (f.args c u epoch).filter (startsWith · "-out:") = ["-out:" ++ Token.quote u.output] := by
  rw [filter_args _ _ _ _ (by decide), filter_meant, Compiler.leadingArgs]
  cases epoch <;> cases u.wantsOptimization <;> rfl

theorem filter_args_define :
    (f.args c u epoch).filter (startsWith · "-define:") =
      u.uniqueDefines.map ("-define:" ++ ·) := by
  rw [filter_args _ _ _ _ (by decide), filter_meant, Compiler.filter_leadingArgs (by decide)]
  simp

theorem filter_args_source :
    (f.args c u epoch).filter (startsWith · "\"") = u.sources.map Token.quote := by
  rw [filter_args _ _ _ _ (by decide), filter_meant, Compiler.filter_leadingArgs (by decide)]
  simp

theorem filter_args_reference :
    (f.args c u epoch).filter (startsWith · "-r:") =
      (u.references ++ f.present).map fun path => "-r:" ++ Token.quote path := by
  rw [filter_args _ _ _ _ (by decide), filter_meant, Compiler.filter_leadingArgs (by decide)]
  simp [Function.comp_def]

theorem filter_args_response :
    (f.args c u epoch).filter (startsWith · "@") =
      f.merged.toList.map fun name => "@" ++ Token.quote (c.config.responseToken name) := by
  rw [filter_args _ _ _ _ (by decide), filter_meant, Compiler.filter_leadingArgs (by decide)]
  simp

theorem filter_args_optimize :
    (f.args c u epoch).filter (startsWith · "-optimize") =
      if epoch = .current ∧ u.wantsOptimization then ["-optimize"] else [] := by
  rw [filter_args _ _ _ _ (by decide), filter_meant, Compiler.leadingArgs]
  cases epoch <;> cases u.wantsOptimization <;> rfl

theorem filter_args_language :
    (f.args c u epoch).filter (startsWith · "-langversion:") =
      if epoch = .current then ["-langversion:" ++ c.config.runtime.languageVersion] else [] := by
  rw [filter_args _ _ _ _ (by decide), filter_meant, Compiler.leadingArgs]
  cases epoch <;> cases u.wantsOptimization <;> rfl

/-- Whatever begins like a response file is the last argument. -/
theorem getLast?_args {token : String} (hmem : token ∈ f.args c u epoch)
    (hat : startsWith token "@" = true) : (f.args c u epoch).getLast? = some token := by
  have hfilter : token ∈ (f.args c u epoch).filter (startsWith · "@") :=
    List.mem_filter.2 ⟨hmem, hat⟩
  rw [filter_args_response, List.mem_map] at hfilter
  obtain ⟨name, hname, rfl⟩ := hfilter
  rw [args, Option.mem_toList.1 hname]
  simp [Compiler.responseFileToken]

end Findings

namespace Composition

theorem outputToken?_eq {composed : Composition} {text : String}
    (h : composed.args.filter (startsWith · "-out:") = ["-out:" ++ text]) :
    composed.outputToken? = some text := by
  rw [outputToken?, ← List.head?_filter, h, List.head?_cons, Option.map_some,
    String.toList_append]
  simp

end Composition

namespace Compiler

/-- **A composed command line is unambiguous.** -/
theorem compose_unambiguous {σ : Type} (host : Host σ) (s : σ) (c : Compiler) (u : BuildUnit)
    (epoch : Epoch) (t : Toolchain) :
    let x := (c.compose u epoch t).execute host s
    x.value.args.filter (startsWith · "-out:") = ["-out:" ++ Token.quote u.output] ∧
    x.value.outputToken? = some (Token.quote u.output) ∧
    x.value.args.filter (startsWith · "-define:") = u.uniqueDefines.map ("-define:" ++ ·) ∧
    x.value.args.filter (startsWith · "\"") = u.sources.map Token.quote ∧
    x.value.args.count "-optimize" = (if epoch = .current ∧ u.wantsOptimization then 1 else 0) ∧
    ((∃ token ∈ x.value.args, startsWith token "-langversion:") ↔ epoch = .current) ∧
    (x.value.args.filter (startsWith · "@")).length ≤ 1 ∧
    (∀ token ∈ x.value.args, startsWith token "@" = true → x.value.args.getLast? = some token) ∧
    ∃ f : Findings, f.Fits c u epoch t ∧ x.looks = f.looks c ∧
      x.value.args.filter (startsWith · "-r:") =
        (u.references ++ f.present).map (fun path => "-r:" ++ Token.quote path) ∧
      x.value.args = ["-debug", "-target:library", "-nowarn:0169"]
        ++ (if epoch = .current then ["-langversion:" ++ c.config.runtime.languageVersion] else [])
        ++ ["-out:" ++ Token.quote u.output] ++ ["-unsafe"]
        ++ (if epoch = .current ∧ u.wantsOptimization then ["-optimize"] else [])
        ++ u.references.map (fun path => "-r:" ++ Token.quote path)
        ++ u.uniqueDefines.map ("-define:" ++ ·)
        ++ u.sources.map Token.quote
        ++ f.present.map (fun path => "-r:" ++ Token.quote path)
        ++ (f.merged.map fun name => "@" ++ Token.quote (c.config.responseToken name)).toList := by
  intro x
  obtain ⟨f, hf, hlooks, hvalue⟩ := exists_findings host s c u epoch t
  have hargs : x.value.args = f.args c u epoch := congrArg Composition.args hvalue
  have houtput := f.filter_args_output c u epoch
  rw [← hargs] at houtput
  refine ⟨houtput, Composition.outputToken?_eq houtput, ?_⟩
  rw [hargs]
  refine ⟨f.filter_args_define c u epoch, f.filter_args_source c u epoch, ?_, ?_, ?_, ?_,
    f, hf, hlooks, f.filter_args_reference c u epoch, ?_⟩
  · have hself : startsWith "-optimize" "-optimize" = true := by decide
    rw [← List.count_filter (p := (startsWith · "-optimize")) hself, f.filter_args_optimize]
    split <;> simp
  · rw [exists_startsWith_iff, f.filter_args_language]
    split <;> simp [*]
  · rw [f.filter_args_response, List.length_map]
    cases f.merged <;> simp
  · intro token
    exact f.getLast?_args c u epoch
  · simp only [Findings.args, unitTokens, List.append_assoc]
    rfl

end Compiler

end CSharpBuild
