/-
Symbols that a unit defines more than once. Of each symbol one copy is kept, where it stands first:
a place in the list is kept exactly if its symbol does not stand before it
(`eraseDups_eq_filter_zipIdx`).

The inductions go through the list from its start. One more symbol at its end is kept exactly if it
is new (`eraseDups_concat`), and no symbol before it is looked at again.
-/
import Mathlib.Data.List.Induction
import CSharpBuild.Doubles.Sample
import CSharpBuild.Proofs.Steadiness
import CSharpBuild.Proofs.Symbols

namespace CSharpBuild

namespace BuildUnit

/-! ## One more symbol -/

theorem eraseDups_concat (symbols : List String) (symbol : String) :
    (symbols ++ [symbol]).eraseDups =
      symbols.eraseDups ++ if symbol ∈ symbols then [] else [symbol] := by
  rw [List.eraseDups_append]
  by_cases h : symbol ∈ symbols <;> simp [List.removeAll, h, List.eraseDups_cons]

/-- Keeping some symbols and removing repetitions may be done in either order. -/
theorem eraseDups_filter (keep : String → Bool) (symbols : List String) :
    (symbols.filter keep).eraseDups = symbols.eraseDups.filter keep := by
  induction symbols using List.reverseRecOn with
  | nil => rfl
  | append_singleton symbols symbol ih =>
    rw [eraseDups_concat, List.filter_append, List.filter_append, ← ih]
    by_cases hkeep : keep symbol = true
    · rw [List.filter_cons_of_pos hkeep, List.filter_nil, eraseDups_concat]
      by_cases hmem : symbol ∈ symbols <;> simp [hmem, hkeep]
    · rw [List.filter_cons_of_neg hkeep, List.filter_nil, List.append_nil]
      by_cases hmem : symbol ∈ symbols <;> simp [hmem, hkeep]

/-- Behind other symbols, those are left that are not among them. -/
theorem eraseDups_append (xs ys : List String) :
    (xs ++ ys).eraseDups = xs.eraseDups ++ ys.eraseDups.filter (· ∉ xs) := by
  rw [List.eraseDups_append, List.removeAll, eraseDups_filter]
  simp

theorem eraseDups_of_nodup {symbols : List String} (h : symbols.Nodup) :
    symbols.eraseDups = symbols := by
  induction symbols using List.reverseRecOn with
  | nil => rfl
  | append_singleton symbols symbol ih =>
    obtain ⟨hold, -, hnew⟩ := List.nodup_append.1 h
    rw [eraseDups_concat, ih hold, if_neg fun hmem => hnew symbol hmem symbol (by simp) rfl]

/-- A copy of a symbol that stands before it is not kept, and changes nothing for what follows. -/
theorem eraseDups_copy {before : List String} {symbol : String} (h : symbol ∈ before)
    (after : List String) :
    (before ++ symbol :: after).eraseDups = (before ++ after).eraseDups := by
  have hsame : ∀ other, other ∈ before ++ [symbol] ↔ other ∈ before := by
    intro other
    rw [List.mem_append, List.mem_singleton]
    exact ⟨fun hor => hor.elim id fun heq => heq ▸ h, .inl⟩
  calc (before ++ symbol :: after).eraseDups
    _ = ((before ++ [symbol]) ++ after).eraseDups := by rw [List.append_assoc]; rfl
    _ = before.eraseDups ++ after.eraseDups.filter (· ∉ before) := by
      rw [eraseDups_append, eraseDups_concat, if_pos h, List.append_nil]
      simp only [hsame]
    _ = (before ++ after).eraseDups := (eraseDups_append before after).symm

/-- **A place is kept exactly if its symbol does not stand before it.** -/
theorem eraseDups_eq_filter_zipIdx (symbols : List String) :
    symbols.eraseDups =
      (symbols.zipIdx.filter fun place => place.1 ∉ symbols.take place.2).map Prod.fst := by
  induction symbols using List.reverseRecOn with
  | nil => rfl
  | append_singleton symbols symbol ih =>
    -- What stands before a place is the same when the list grows at its end.
    have hplaces :
        symbols.zipIdx.filter (fun place => place.1 ∉ (symbols ++ [symbol]).take place.2) =
          symbols.zipIdx.filter fun place => place.1 ∉ symbols.take place.2 := by
      refine List.filter_congr fun place hplace => ?_
      have hlt : place.2 < symbols.length := by simpa using List.snd_lt_of_mem_zipIdx hplace
      rw [List.take_append_of_le_length hlt.le]
    rw [eraseDups_concat, ih, List.zipIdx_append, List.filter_append, hplaces, List.map_append]
    by_cases hmem : symbol ∈ symbols <;> simp [hmem]

theorem pairwise_idxOf_eraseDups (symbols : List String) :
    symbols.eraseDups.Pairwise fun a b => symbols.idxOf a < symbols.idxOf b := by
  induction symbols using List.reverseRecOn with
  | nil => simp
  | append_singleton symbols symbol ih =>
    have hold : symbols.eraseDups.Pairwise fun a b =>
        (symbols ++ [symbol]).idxOf a < (symbols ++ [symbol]).idxOf b := by
      refine ih.imp_of_mem fun {a b} ha hb hlt => ?_
      rwa [List.idxOf_append_of_mem (List.mem_eraseDups.1 ha),
        List.idxOf_append_of_mem (List.mem_eraseDups.1 hb)]
    rw [eraseDups_concat, List.pairwise_append]
    refine ⟨hold, by split <;> simp, fun a ha b hb => ?_⟩
    split at hb
    · cases hb
    · next hnew =>
      rw [List.mem_singleton.1 hb, List.idxOf_append_of_mem (List.mem_eraseDups.1 ha),
        List.idxOf_append_of_notMem hnew]
      have := List.idxOf_lt_length_of_mem (List.mem_eraseDups.1 ha)
      omega

/-! ## Units with other symbols -/

/-- A unit with other symbols in place of its own. -/
def withDefines (u : BuildUnit) (symbols : List String)
    (h : ∀ symbol ∈ symbols, ValidSymbol symbol) : BuildUnit where
  toDraft := { u.toDraft with defines := symbols }
  wellFormed := ⟨u.wellFormed.1, u.wellFormed.2.1, u.wellFormed.2.2.1, h⟩

theorem uniqueDefines_withDefines (u : BuildUnit) {symbols : List String}
    (h : ∀ symbol ∈ symbols, ValidSymbol symbol) :
    (u.withDefines symbols h).uniqueDefines = symbols.eraseDups :=
  uniqueDefines_eq_eraseDups _

theorem valid_of_mem_defines (u : BuildUnit) : ∀ symbol ∈ u.defines, ValidSymbol symbol :=
  u.wellFormed.2.2.2

end BuildUnit

namespace Compiler

/-- Of the symbols of a unit, a composition knows no more than the unique ones. -/
theorem compose_withDefines {u : BuildUnit} {symbols : List String}
    (h : ∀ symbol ∈ symbols, ValidSymbol symbol) (hunique : symbols.eraseDups = u.uniqueDefines)
    (c : Compiler) (epoch : Epoch) (t : Toolchain) :
    c.compose (u.withDefines symbols h) epoch t = c.compose u epoch t := by
  have htokens : c.unitTokens (u.withDefines symbols h) epoch = c.unitTokens u epoch := by
    rw [unitTokens, unitTokens, BuildUnit.uniqueDefines_withDefines, hunique]
    rfl
  have hresponse : c.responseFile (u.withDefines symbols h) epoch = c.responseFile u epoch := by
    cases epoch <;> rfl
  rw [compose, compose, htokens, hresponse]
  rfl

end Compiler

namespace BuildUnit

/-- **What is left of the symbols of a unit.** One of each, where it stands first, in the order of
these places. Removing repetitions again changes nothing; behind the symbols of another unit, those
are left that it does not have. So a unit with one more copy of a symbol, anywhere behind the first
one, has more symbols and the same unique ones, and nothing that is composed shows the difference:
not to one host, and not over a fixed file set at two times. -/
theorem uniqueDefines_are_first (u : BuildUnit) :
    u.uniqueDefines =
      (u.defines.zipIdx.filter fun place => place.1 ∉ u.defines.take place.2).map Prod.fst ∧
    u.uniqueDefines.Nodup ∧
    (∀ symbol, symbol ∈ u.uniqueDefines ↔ symbol ∈ u.defines) ∧
    (u.uniqueDefines.Pairwise fun a b => u.defines.idxOf a < u.defines.idxOf b) ∧
    (∃ v : BuildUnit, v.toDraft = { u.toDraft with defines := u.uniqueDefines } ∧
      v.uniqueDefines = u.uniqueDefines) ∧
    (∀ v : BuildUnit, ∃ w : BuildUnit,
      w.toDraft = { u.toDraft with defines := u.defines ++ v.defines } ∧
      w.uniqueDefines = u.uniqueDefines ++ v.uniqueDefines.filter (· ∉ u.defines)) ∧
    ∀ before symbol after, u.defines = before ++ after → symbol ∈ before → ∃ v : BuildUnit,
      v.toDraft = { u.toDraft with defines := before ++ symbol :: after } ∧
      v.uniqueDefines = u.uniqueDefines ∧
      ∀ (c : Compiler) (epoch : Epoch) (t : Toolchain),
        c.compose v epoch t = c.compose u epoch t ∧
        ∀ {σ : Type} (host : Host σ) (holds : Path → Bool) (s s' : σ),
          host.Steady holds s → host.Steady holds s' →
            ((c.compose v epoch t).execute host s').value =
              ((c.compose u epoch t).execute host s).value := by
  have hvalid := u.valid_of_mem_defines
  refine ⟨?_, u.nodup_uniqueDefines, fun _ => mem_uniqueDefines, ?_, ?_, fun v => ?_, ?_⟩
  · rw [uniqueDefines_eq_eraseDups, eraseDups_eq_filter_zipIdx]
  · rw [uniqueDefines_eq_eraseDups]
    exact pairwise_idxOf_eraseDups u.defines
  · have hunique : ∀ symbol ∈ u.uniqueDefines, ValidSymbol symbol :=
      fun symbol h => hvalid symbol (mem_uniqueDefines.1 h)
    refine ⟨u.withDefines u.uniqueDefines hunique, rfl, ?_⟩
    rw [uniqueDefines_withDefines, eraseDups_of_nodup u.nodup_uniqueDefines]
  · have hboth : ∀ symbol ∈ u.defines ++ v.defines, ValidSymbol symbol :=
      List.forall_mem_append.2 ⟨hvalid, v.valid_of_mem_defines⟩
    refine ⟨u.withDefines (u.defines ++ v.defines) hboth, rfl, ?_⟩
    rw [uniqueDefines_withDefines, eraseDups_append, uniqueDefines_eq_eraseDups,
      uniqueDefines_eq_eraseDups]
  · intro before symbol after hdefines hmem
    have hcopy : ∀ other ∈ before ++ symbol :: after, ValidSymbol other := by
      intro other hother
      refine hvalid other ?_
      rw [hdefines, List.mem_append]
      rcases List.mem_append.1 hother with hbefore | hrest
      · exact .inl hbefore
      · rcases List.mem_cons.1 hrest with rfl | hafter
        · exact .inl hmem
        · exact .inr hafter
    have hunique : (before ++ symbol :: after).eraseDups = u.uniqueDefines := by
      rw [eraseDups_copy hmem, ← hdefines, uniqueDefines_eq_eraseDups]
    refine ⟨u.withDefines (before ++ symbol :: after) hcopy, rfl,
      (uniqueDefines_withDefines u hcopy).trans hunique, fun c epoch t => ?_⟩
    have hcompose := c.compose_withDefines hcopy hunique epoch t
    refine ⟨hcompose, fun host holds s s' hs hs' => ?_⟩
    rw [hcompose, (c.compose_of_steady hs u epoch t).1, (c.compose_of_steady hs' u epoch t).1]

/-- One more copy between other symbols, over a file set in which there is a response file. -/
theorem uniqueDefines_are_first_despite_copy :
    let u : BuildUnit := ⟨{ Draft.new ⟨"Lib.dll"⟩ with defines := ["B", "A", "B", "C"] },
      Draft.fault?_eq_none_iff.1 (by decide)⟩
    let c : Compiler := ⟨Config.ofRoot ⟨"/game"⟩, Doubles.SampleCompiler.standard.layout, 42⟩
    let host := Doubles.FileSet.host (.ok Doubles.SampleCompiler.monoCommand) []
    let files := Doubles.FileSet.ofPaths [⟨"/game/Assets/mcs.rsp"⟩]
    let t : Toolchain := .fallback c.candidates
    u.uniqueDefines = ["B", "A", "C"] ∧
    host.Steady files.holds files ∧
    ∃ v : BuildUnit, v.defines = ["B", "A", "B", "B", "C"] ∧ v.uniqueDefines = ["B", "A", "C"] ∧
      ((c.compose v .current t).execute host files).value =
        ((c.compose u .current t).execute host files).value := by
  intro u c host files t
  obtain ⟨hfirst, -, -, -, -, -, hcopy⟩ := uniqueDefines_are_first u
  have hunique : u.uniqueDefines = ["B", "A", "C"] := hfirst.trans (by decide)
  have hsteady : host.Steady files.holds files := Doubles.FileSet.steady_host (by decide) _ _
  obtain ⟨v, hfields, hsame, hcompose⟩ := hcopy ["B", "A", "B"] "B" ["C"] rfl (by decide)
  exact ⟨hunique, hsteady, v, congrArg Draft.defines hfields, hsame.trans hunique,
    (hcompose c .current t).2 host files.holds files files hsteady hsteady⟩

end BuildUnit

end CSharpBuild
