/-
The define that names the host process is put into what was composed and changes nothing else. Where
it goes is found by looking for a token that begins like a response file, so this rests on the
grammar of tokens: none but the response file begins so, and that one is last
(`exists_response_composing`).

`prepare_cases` says what is made of the composition in a preparation, for either backend.
`prepare_inserts_process_id` compares the arguments of the command with the composed ones.
-/
import CSharpBuild.Proofs.Arrival
import CSharpBuild.Proofs.Backend
import CSharpBuild.Proofs.Reporting

namespace CSharpBuild

open Plan Text

namespace Compiler

variable {σ : Type} (host : Host σ) (s : σ) (c : Compiler) (u : BuildUnit)

theorem value_settle (missing : List Warning) (composed : Composition) :
    ((c.settle missing composed).execute host s).value =
      match executable? composed.toolchain with
      | some executable =>
        .ok ⟨composed.toolchain, c.primaryCommand executable composed.args,
          missing ++ composed.warnings⟩
      | none =>
        (host.defaultCommand s).value.map fun default =>
          ⟨composed.toolchain, c.fallbackCommand default composed.args,
            missing ++ composed.warnings⟩ := by
  unfold settle
  cases executable? composed.toolchain with
  | some executable => rfl
  | none =>
    rw [defaultCommand, askDefault_bind, execute]
    cases (host.defaultCommand s).value <;> rfl

theorem value_prepare :
    ((c.prepare u).execute host s).value =
      ((c.settle (c.announced ((c.select c.config.projectRoot u).execute host s).value)
        (composing host s c u).value).execute host (composing host s c u).state).value := by
  rw [execute_prepare, execute_announce]

/-- **What becomes of a composition.** Its arguments go to the primary compiler, if its toolchain is
that one, and otherwise behind those of the host's default command. -/
theorem prepare_cases {p : Prepared} (h : ((c.prepare u).execute host s).value = .ok p) :
    p.toolchain = (composing host s c u).value.toolchain ∧
      ((p.toolchain = .primary (c.primaryPath c.config.projectRoot) c.candidates ∧
          p.command = c.primaryCommand (c.primaryPath c.config.projectRoot)
            (composing host s c u).value.args) ∨
        p.toolchain = .fallback c.candidates ∧
          ∃ default, (host.defaultCommand (composing host s c u).state).value = .ok default ∧
            p.command = c.fallbackCommand default (composing host s c u).value.args) := by
  obtain ⟨found, f, hf, hvalue, -⟩ := exists_preparation host s c u
  have htoolchain : (composing host s c u).value.toolchain = f.toolchain (c.selected _ found) :=
    congrArg Composition.toolchain hvalue
  rw [toolchain_selected hf] at htoolchain
  rw [value_prepare, value_settle] at h
  by_cases hnone : f.missing c found = none
  · rw [if_pos hnone] at htoolchain
    have hexe : executable? (composing host s c u).value.toolchain = some _ :=
      congrArg executable? htoolchain
    rw [hexe] at h
    cases h
    exact ⟨rfl, .inl ⟨htoolchain, rfl⟩⟩
  · rw [if_neg hnone] at htoolchain
    have hexe : executable? (composing host s c u).value.toolchain = none :=
      congrArg executable? htoolchain
    rw [hexe] at h
    cases hanswer : (host.defaultCommand (composing host s c u).state).value with
    | error failure => rw [hanswer] at h; cases h
    | ok default =>
      rw [hanswer] at h
      cases h
      exact ⟨rfl, .inr ⟨htoolchain, default, rfl, rfl⟩⟩

/-- What is composed is a response file, if one was merged, behind tokens that do not begin like
one. -/
theorem exists_response_composing :
    ∃ (before : List String) (response : Option String),
      (composing host s c u).value.args = before ++ response.toList ∧
      (∀ token ∈ before, startsWith token "@" = false) ∧
      ∀ token ∈ response, startsWith token "@" = true := by
  obtain ⟨found, f, -, hvalue, -⟩ := exists_preparation host s c u
  have hargs : (composing host s c u).value.args = f.args c u c.config.epoch :=
    congrArg Composition.args hvalue
  exact ⟨_, _, hargs.trans (f.args_eq_body c u c.config.epoch), Findings.startsWith_body,
    Findings.startsWith_responseFileToken⟩

/-- Only the response file begins like one, so it is last behind whatever is put before it. -/
theorem getLast?_append_response {before : List String} {response : Option String} {token : String}
    (hbefore : ∀ t ∈ before, startsWith t "@" = false) (h : token ∈ before ++ response.toList)
    (hat : startsWith token "@" = true) (front : List String) :
    (front ++ response.toList).getLast? = some token := by
  rcases List.mem_append.1 h with hmem | hmem
  · rw [hbefore token hmem] at hat
    cases hat
  · rw [Option.mem_toList.1 hmem]
    simp

theorem eraseIdx_insertion (lead before rest : List String) (token : String) :
    (lead ++ (before ++ token :: rest)).eraseIdx (lead.length + before.length) =
      lead ++ (before ++ rest) := by
  rw [List.eraseIdx_append_of_length_le (Nat.le_add_right _ _), Nat.add_sub_cancel_left,
    List.eraseIdx_append_of_length_le (Nat.le_refl _), Nat.sub_self]
  rfl

/-- **The process id is put in before the response file, and nothing else is done to what was
composed.** -/
theorem prepare_inserts_process_id {p : Prepared}
    (h : ((c.prepare u).execute host s).value = .ok p) :
    let composition := composing host s c u
    let composed := composition.value.args
    p.toolchain = composition.value.toolchain ∧
    p.command.cwd = some c.config.projectRoot ∧
    (∀ token ∈ composed, startsWith token "@" = true → p.command.args.getLast? = some token) ∧
    ∃ (lead before : List String) (response : Option String),
      composed = before ++ response.toList ∧
      (∀ token ∈ before, startsWith token "@" = false) ∧
      (∀ token ∈ response, startsWith token "@" = true) ∧
      (if p.toolchain.isPrimary then
          lead = c.config.launcher.toList.map
            fun _ => Token.quote (c.primaryPath c.config.projectRoot)
        else ∃ default, (host.defaultCommand composition.state).value = .ok default ∧
          p.command.program = default.program ∧ lead = default.args) ∧
      (p.toolchain.isPrimary = false ∨ c.config.processIdDefine = none →
        p.command.args = lead ++ composed) ∧
      ∀ symbol ∈ c.config.processIdDefine, p.toolchain.isPrimary = true →
        p.command.args = lead ++ (before ++
          ("-define:" ++ symbol ++ toString c.processId) :: response.toList) ∧
        p.command.args.eraseIdx (lead.length + before.length) = lead ++ composed := by
  intro composition composed
  obtain ⟨htoolchain, hcase⟩ := prepare_cases host s c u h
  obtain ⟨before, response, hcomposed, hbefore, hresponse⟩ := exists_response_composing host s c u
  change composed = _ at hcomposed
  have hlast (front : List String) (token : String) (htoken : token ∈ composed)
      (hat : startsWith token "@" = true) : (front ++ response.toList).getLast? = some token := by
    rw [hcomposed] at htoken
    exact getLast?_append_response hbefore htoken hat front
  rcases hcase with ⟨hprimary, hcommand⟩ | ⟨hfallback, default, hanswer, hcommand⟩
  · let lead := c.config.launcher.toList.map
      fun _ => Token.quote (c.primaryPath c.config.projectRoot)
    have hargs : p.command.args =
        lead ++ (before ++ c.hostSymbols.map defineToken ++ response.toList) := by
      rw [hcommand, args_primaryCommand, ← identified_append hbefore hresponse, ← hcomposed]
    refine ⟨htoolchain, ?_, fun token htoken hat => ?_, lead, before, response, hcomposed, hbefore,
      hresponse, ?_, ?_, fun symbol hsymbol _ => ?_⟩
    · rw [hcommand]
      exact cwd_primaryCommand _ _
    · rw [hargs, ← List.append_assoc]
      exact hlast _ token htoken hat
    · rw [hprimary]
      rfl
    · rintro (hkind | hnone)
      · rw [hprimary] at hkind
        cases hkind
      · rw [hargs, hostSymbols, hnone, hcomposed]
        simp
    · have hall : p.command.args = lead ++ (before ++
          ("-define:" ++ symbol ++ toString c.processId) :: response.toList) := by
        rw [hargs, hostSymbols, Option.mem_def.1 hsymbol]
        simp [defineToken, String.append_assoc]
      refine ⟨hall, ?_⟩
      rw [hall, eraseIdx_insertion, hcomposed]
  · have hargs : p.command.args = default.args ++ composed := congrArg Command.args hcommand
    refine ⟨htoolchain, congrArg Command.cwd hcommand, fun token htoken hat => ?_, default.args,
      before, response, hcomposed, hbefore, hresponse, ?_, fun _ => hargs,
      fun symbol _ hkind => ?_⟩
    · rw [hargs, hcomposed, ← List.append_assoc]
      exact hlast _ token htoken hat
    · rw [hfallback]
      exact ⟨default, hanswer, by rw [hcommand]; rfl, rfl⟩
    · rw [hfallback] at hkind
      cases hkind

/-- A source, a reference and a define that begin like a response file: the define is put in before
the file itself, which stays last. -/
theorem prepare_inserts_process_id_among_marks :
    let host := Doubles.FileSet.host (.ok Doubles.SampleCompiler.monoCommand) []
    let c : Compiler := ⟨{ Config.ofRoot ⟨"/game"⟩ with launcher := some ⟨"mono"⟩ },
      Doubles.SampleCompiler.standard.layout, 42⟩
    let u : BuildUnit := ⟨{ Draft.new ⟨"Lib.dll"⟩ with
      sources := [⟨"@A.cs"⟩], references := [⟨"@core.dll"⟩], defines := ["@DEBUG"] },
      Draft.fault?_eq_none_iff.1 (by decide)⟩
    let files := Doubles.FileSet.ofPaths
      [⟨"/game/Compiler/UniversalCompiler.exe"⟩, ⟨"/game/mcs.rsp"⟩]
    let composed := ["-debug", "-target:library", "-nowarn:0169", "-langversion:6",
      "-out:\"Lib.dll\"", "-unsafe", "-optimize", "-r:\"@core.dll\"", "-define:@DEBUG",
      "\"@A.cs\"", "@\"mcs.rsp\""]
    (composing host files c u).value.args = composed ∧
    ∃ p, ((c.prepare u).execute host files).value = .ok p ∧
      p.command.args.getLast? = some "@\"mcs.rsp\"" ∧
      ∃ lead before : List String,
        p.command.args.eraseIdx (lead.length + before.length) = lead ++ composed := by
  intro host c u files composed
  let p : Prepared := ⟨.primary ⟨"/game/Compiler/UniversalCompiler.exe"⟩ ["mcs.rsp"],
    ⟨⟨"mono"⟩, ["\"/game/Compiler/UniversalCompiler.exe\"", "-debug", "-target:library",
      "-nowarn:0169", "-langversion:6", "-out:\"Lib.dll\"", "-unsafe", "-optimize",
      "-r:\"@core.dll\"", "-define:@DEBUG", "\"@A.cs\"", "-define:__UNITY_PROCESSID__42",
      "@\"mcs.rsp\""], some ⟨"/game"⟩⟩, []⟩
  have hvalue : ((c.prepare u).execute host files).value = .ok p := by decide +kernel
  have hcomposed : (composing host files c u).value.args = composed := by decide +kernel
  obtain ⟨-, -, hlast, lead, before, response, -, -, -, -, -, hinserted⟩ :=
    prepare_inserts_process_id host files c u hvalue
  rw [hcomposed] at hlast hinserted
  exact ⟨hcomposed, p, hvalue, hlast _ (by decide) (by decide), lead, before,
    (hinserted "__UNITY_PROCESSID__" rfl rfl).2⟩

end Compiler

end CSharpBuild
