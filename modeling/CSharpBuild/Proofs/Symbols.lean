/-
How preprocessor symbols reach the child. They stand behind `-define:` as the unit has them, not in
quotes, and are resolved with the rest of the token.

A unit may have quotes in its symbols, for they are neither blank nor a semicolon. Resolving a token
drops them, so a symbol arrives as it is written exactly if it has none (`compose_delivers_symbols`),
and two symbols may arrive as one (`quoted_symbols_collide`).
-/
import CSharpBuild.Doubles.FileSet
import CSharpBuild.Doubles.Sample
import CSharpBuild.Proofs.Arrival

namespace CSharpBuild

open Text

namespace BuildUnit

theorem nodup_eraseDups (symbols : List String) : symbols.eraseDups.Nodup := by
  match symbols with
  | [] => simp
  | symbol :: rest =>
    rw [List.eraseDups_cons, List.nodup_cons]
    exact ⟨by simp [List.mem_eraseDups], nodup_eraseDups _⟩
termination_by symbols.length
decreasing_by exact Nat.lt_succ_of_le (List.length_filter_le _ _)

theorem nodup_uniqueDefines (u : BuildUnit) : u.uniqueDefines.Nodup := by
  rw [uniqueDefines_eq_eraseDups]
  exact nodup_eraseDups u.defines

theorem mem_uniqueDefines {u : BuildUnit} {symbol : String} :
    symbol ∈ u.uniqueDefines ↔ symbol ∈ u.defines := by
  rw [uniqueDefines_eq_eraseDups, List.mem_eraseDups]

end BuildUnit

namespace Compiler

/-- What a list of define tokens stands for is the list itself exactly if each token stands for
itself. -/
theorem map_define_eq_iff {symbols : List String} :
    symbols.map (fun symbol => "-define:" ++ Token.unquote symbol) =
        symbols.map ("-define:" ++ ·) ↔ ∀ symbol ∈ symbols, '"' ∉ symbol.toList := by
  rw [List.map_inj_left]
  refine forall₂_congr fun symbol _ => ?_
  rw [String.append_right_inj, Token.unquote_eq_self_iff]

/-- **Which symbols arrive as they are written.** The define tokens of a composition are resolved to
one argument for each symbol of the unit, in order. All of them are as the unit has them exactly if
there is no quote in any, and then no two are alike. -/
theorem compose_delivers_symbols {σ : Type} (host : Host σ) (s : σ) (c : Compiler) (u : BuildUnit)
    (epoch : Epoch) (t : Toolchain) (program : Path) (cwd : Option Path) :
    let x := (c.compose u epoch t).execute host s
    let child := (⟨program, x.value.args, cwd⟩ : Command).invocation
    let received := (x.value.args.filter (startsWith · "-define:")).map Token.unquote
    received.Sublist child.args ∧
    received = u.uniqueDefines.map (fun symbol => "-define:" ++ Token.unquote symbol) ∧
    (∀ symbol ∈ u.defines, Token.unquote symbol = symbol ↔ '"' ∉ symbol.toList) ∧
    (received = u.uniqueDefines.map ("-define:" ++ ·) ↔
      ∀ symbol ∈ u.defines, '"' ∉ symbol.toList) ∧
    ((∀ symbol ∈ u.defines, '"' ∉ symbol.toList) → received.Nodup) := by
  obtain ⟨f, -, -, hvalue⟩ := exists_findings host s c u epoch t
  intro x child received
  have hargs : x.value.args = f.args c u epoch := congrArg Composition.args hvalue
  have hreceived : received = u.uniqueDefines.map fun symbol => "-define:" ++ Token.unquote symbol := by
    have htokens := congrArg (List.map Token.unquote) (f.filter_args_define c u epoch)
    rw [← hargs, List.map_map] at htokens
    refine htokens.trans (List.map_congr_left fun symbol _ => ?_)
    exact Token.unquote_append_of_plain (by decide) symbol
  have hsub : received.Sublist child.args := List.filter_sublist.map Token.unquote
  clear_value received
  have hiff : received = u.uniqueDefines.map ("-define:" ++ ·) ↔
      ∀ symbol ∈ u.defines, '"' ∉ symbol.toList := by
    rw [hreceived, map_define_eq_iff]
    simp only [BuildUnit.mem_uniqueDefines]
  refine ⟨hsub, hreceived, fun symbol _ => Token.unquote_eq_self_iff, hiff, fun hplain => ?_⟩
  rw [hiff.2 hplain]
  exact List.Pairwise.map _ (fun _ _ hne heq => hne ((String.append_right_inj _).1 heq))
    u.nodup_uniqueDefines

/-- **Two symbols of one unit, told apart by a quote, arrive as one.** -/
theorem quoted_symbols_collide :
    let u : BuildUnit := ⟨{ Draft.new ⟨"Lib.dll"⟩ with defines := ["A\"B", "AB"] },
      Draft.fault?_eq_none_iff.1 (by decide)⟩
    let host := Doubles.FileSet.host (.ok Doubles.SampleCompiler.monoCommand) []
    let c : Compiler := ⟨Config.ofRoot ⟨"/game"⟩, Doubles.SampleCompiler.standard.layout, 42⟩
    let x := (c.compose u .current (.fallback c.candidates)).execute host Doubles.FileSet.empty
    u.uniqueDefines = ["A\"B", "AB"] ∧
    x.value.args.filter (startsWith · "-define:") = ["-define:A\"B", "-define:AB"] ∧
    (x.value.args.filter (startsWith · "-define:")).map Token.unquote =
      ["-define:AB", "-define:AB"] := by
  decide +kernel

end Compiler

end CSharpBuild
