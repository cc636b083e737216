/-
What a host that registers providers one after the other ends up with. A registry holds for every
language the provider registered last, hands back every provider it lets go of, and lists its
languages in order. `Registry.register_run` says all of it about any sequence of registrations.

The invariant is `Registry.Distinct`: no language stands there twice. It is what makes looking up
every language that is listed the same as taking every provider once (`Distinct.held_perm`), and a
sorted listing a strictly increasing one. What a registration moves out of the registry needs no
invariant (`perm_register`), nor does what a lookup finds.
-/
import Mathlib.Data.List.ReduceOption
import CSharpBuild.Registry
import CSharpBuild.Proofs.ByteOrder

namespace CSharpBuild

variable {m : Type → Type}

/-- The provider that notes each time it is asked, before it does what `p` does. -/
def Provider.watched [Monad m] (p : Provider m) : Provider (StateT (List (Provider m)) m) where
  language := p.language
  compile u := do
    modify (· ++ [p])
    p.compile u

namespace Registry

/-- Register providers in turn. The answers are those of the calls, one for each. -/
def registerAll (r : Registry m) : List (Provider m) → Registry m × List (Option (Provider m))
  | [] => (r, [])
  | p :: ps =>
    let first := r.register p
    let later := first.1.registerAll ps
    (later.1, first.2 :: later.2)

/-- The registry of a host that registered `ps`. -/
def ofProviders (ps : List (Provider m)) : Registry m := (empty.registerAll ps).1

/-- What that host was handed back. -/
def answers (ps : List (Provider m)) : List (Option (Provider m)) := (empty.registerAll ps).2

/-- The provider registered last for a language. -/
def latest? (ps : List (Provider m)) (language : String) : Option (Provider m) :=
  (ps.filter (·.language = language)).getLast?

/-- The providers a host can still get at. -/
def held (r : Registry m) : List (Provider m) := r.languages.filterMap r.get?

/-- No language has two providers. -/
def Distinct (r : Registry m) : Prop := (r.providers.map Provider.language).Nodup

/-! ### Which provider was last -/

theorem latest?_concat (ps : List (Provider m)) (p : Provider m) (language : String) :
    latest? (ps ++ [p]) language =
      if language = p.language then some p else latest? ps language := by
  rw [latest?, List.filter_append]
  by_cases h : language = p.language
  · simp [h]
  · simp [h, Ne.symm h, latest?]

theorem latest?_cons (p : Provider m) (ps : List (Provider m)) (language : String) :
    latest? (p :: ps) language =
      (latest? ps language).or (if language = p.language then some p else none) := by
  by_cases h : language = p.language
  · simp [latest?, h, List.getLast?_cons, Option.or_some]
  · simp [latest?, h, Ne.symm h]

theorem latest?_eq_none_iff (ps : List (Provider m)) (language : String) :
    latest? ps language = none ↔ language ∉ ps.map Provider.language := by
  simp only [latest?, List.getLast?_eq_none_iff, List.filter_eq_nil_iff, decide_eq_true_eq,
    List.mem_map, not_exists, not_and]

theorem latest?_map {n : Type → Type} (f : Provider m → Provider n)
    (hf : ∀ p, (f p).language = p.language) (ps : List (Provider m)) (language : String) :
    latest? (ps.map f) language = (latest? ps language).map f := by
  simp only [latest?, List.filter_map, List.getLast?_map, Function.comp_def, hf]

/-! ### One registration -/

theorem get?_register (r : Registry m) (p : Provider m) (language : String) :
    (r.register p).1.get? language = if language = p.language then some p else r.get? language := by
  split
  · next h => rw [h, get?_register_self]
  · next h => rw [get?_register_of_ne r p h]

theorem Distinct.register {r : Registry m} (h : r.Distinct) (p : Provider m) :
    (r.register p).1.Distinct := by
  obtain ⟨providers⟩ := r
  simp only [Distinct, Registry.register] at h ⊢
  induction providers with
  | nil => simp [insert]
  | cons q rest ih =>
    obtain ⟨hq, hrest⟩ := List.nodup_cons.1 h
    rw [insert]
    split
    · next heq =>
      -- In the place of `q`, under the same language.
      rw [List.map_cons, heq]
      exact h
    · next hne =>
      -- Behind `q`, which has neither the language of `p` nor that of any other.
      refine List.nodup_cons.2 ⟨fun hmem => ?_, ih hrest⟩
      exact ((mem_map_insert p rest).1 hmem).elim (hne ·.symm) hq

/-- **A registration neither loses nor doubles a provider**: the one it puts in and those that were
there are those it leaves there and the one it hands back. -/
theorem perm_register (r : Registry m) (p : Provider m) :
    (p :: r.providers).Perm ((r.register p).1.providers ++ (r.register p).2.toList) := by
  obtain ⟨providers⟩ := r
  simp only [Registry.register, get?]
  induction providers with
  | nil => simp [insert]
  | cons q rest ih =>
    rw [insert]
    split
    · next heq =>
      rw [List.find?_cons_of_pos (by simpa using heq.symm)]
      calc p :: q :: rest
        _ |>.Perm (q :: p :: rest) := List.Perm.swap q p rest
        _ |>.Perm (p :: rest ++ [q]) := (List.perm_append_singleton q (p :: rest)).symm
    · next hne =>
      rw [List.find?_cons_of_neg (by simpa using Ne.symm hne)]
      exact (List.Perm.swap q p rest).trans (ih.cons q)

/-- With distinct languages, each provider is the one that its language has. -/
theorem Distinct.filterMap_get? {r : Registry m} (h : r.Distinct) :
    (r.providers.map Provider.language).filterMap r.get? = r.providers := by
  obtain ⟨providers⟩ := r
  simp only [Distinct] at h ⊢
  induction providers with
  | nil => rfl
  | cons q rest ih =>
    obtain ⟨hq, hrest⟩ := List.nodup_cons.1 h
    have hself : (⟨q :: rest⟩ : Registry m).get? q.language = some q :=
      List.find?_cons_of_pos (by simp)
    have hothers : ∀ language ∈ rest.map Provider.language,
        (⟨q :: rest⟩ : Registry m).get? language = (⟨rest⟩ : Registry m).get? language := by
      intro language hl
      have hne : q.language ≠ language := fun heq => hq (heq ▸ hl)
      exact List.find?_cons_of_neg (by simpa using hne)
    rw [List.map_cons, List.filterMap_cons_some hself, List.filterMap_congr hothers, ih hrest]

theorem Distinct.held_perm {r : Registry m} (h : r.Distinct) : r.held.Perm r.providers := by
  calc r.held
    _ |>.Perm ((r.providers.map Provider.language).filterMap r.get?) :=
      (List.mergeSort_perm _ _).filterMap _
    _ = r.providers := h.filterMap_get?

/-- Sorted and distinct is strictly increasing. -/
theorem Distinct.languages_increase {r : Registry m} (h : r.Distinct) :
    r.languages.Pairwise (· < ·) := by
  have hsorted : r.languages.Pairwise fun a b => a ≤ b := by
    simpa [languages] using @List.pairwise_mergeSort String (fun a b => decide (a ≤ b))
      (by simpa using fun a b c => String.le_trans) (by simpa using String.le_total)
      (r.providers.map Provider.language)
  have hdistinct : r.languages.Nodup := (List.mergeSort_perm _ _).nodup_iff.2 h
  exact (hsorted.and hdistinct).imp fun ⟨hle, hne⟩ => Std.lt_of_le_of_ne hle hne

/-! ### A run of registrations -/

theorem registerAll_append (r : Registry m) (ps qs : List (Provider m)) :
    r.registerAll (ps ++ qs) =
      (((r.registerAll ps).1.registerAll qs).1,
        (r.registerAll ps).2 ++ ((r.registerAll ps).1.registerAll qs).2) := by
  induction ps generalizing r with
  | nil => rfl
  | cons p ps ih => simp only [List.cons_append, registerAll, ih]

theorem length_registerAll (r : Registry m) (ps : List (Provider m)) :
    (r.registerAll ps).2.length = ps.length := by
  induction ps generalizing r with
  | nil => rfl
  | cons p ps ih => simp only [registerAll, List.length_cons, ih]

theorem get?_registerAll (r : Registry m) (ps : List (Provider m)) (language : String) :
    (r.registerAll ps).1.get? language = (latest? ps language).or (r.get? language) := by
  induction ps generalizing r with
  | nil => rfl
  | cons p ps ih =>
    rw [registerAll, ih, get?_register, latest?_cons]
    split <;> simp

theorem Distinct.registerAll {r : Registry m} (h : r.Distinct) (ps : List (Provider m)) :
    (r.registerAll ps).1.Distinct := by
  induction ps generalizing r with
  | nil => exact h
  | cons p ps ih => exact ih (h.register p)

theorem perm_registerAll (r : Registry m) (ps : List (Provider m)) :
    (ps ++ r.providers).Perm
      ((r.registerAll ps).1.providers ++ (r.registerAll ps).2.reduceOption) := by
  induction ps generalizing r with
  | nil => simp [registerAll]
  | cons p ps ih =>
    have step := perm_register r p
    have run := ih (r.register p).1
    have hanswers (old : Option (Provider m)) (olds : List (Option (Provider m))) :
        (old :: olds).reduceOption = old.toList ++ olds.reduceOption := by
      cases old <;> simp
    simp only [registerAll, hanswers]
    generalize (r.register p).2.toList = old, (r.register p).1 = r' at *
    calc p :: ps ++ r.providers
      _ |>.Perm (ps ++ p :: r.providers) := List.perm_middle.symm
      _ |>.Perm (ps ++ (r'.providers ++ old)) := step.append_left ps
      _ = (ps ++ r'.providers) ++ old := (List.append_assoc ..).symm
      _ |>.Perm ((r'.registerAll ps).1.providers ++ (r'.registerAll ps).2.reduceOption ++ old) :=
        run.append_right old
      _ = (r'.registerAll ps).1.providers ++ ((r'.registerAll ps).2.reduceOption ++ old) :=
        List.append_assoc ..
      _ |>.Perm ((r'.registerAll ps).1.providers ++ (old ++ (r'.registerAll ps).2.reduceOption)) :=
        List.perm_append_comm.append_left _

theorem mem_languages_registerAll (r : Registry m) (ps : List (Provider m)) (language : String) :
    language ∈ (r.registerAll ps).1.languages ↔
      language ∈ ps.map Provider.language ∨ language ∈ r.languages := by
  induction ps generalizing r with
  | nil => simp [registerAll]
  | cons p ps ih =>
    rw [registerAll, ih, languages_register, List.map_cons, List.mem_cons]
    grind

theorem distinct_empty : (empty : Registry m).Distinct := List.nodup_nil

theorem get?_ofProviders (ps : List (Provider m)) (language : String) :
    (ofProviders ps).get? language = latest? ps language := by
  rw [ofProviders, get?_registerAll]
  exact Option.or_none

/-- Whom a compile reaches: the provider registered last for the language, once, or nobody. Watching
the providers changes nothing else. -/
theorem compile_watched [Monad m] [LawfulMonad m] (ps : List (Provider m)) (language : String)
    (u : BuildUnit) (seen : List (Provider m)) :
    ((ofProviders (ps.map Provider.watched)).compile language u).run seen =
      (fun out => (out, seen ++ (latest? ps language).toList)) <$>
        (ofProviders ps).compile language u := by
  rw [compile, compile, get?_ofProviders, get?_ofProviders,
    latest?_map Provider.watched fun _ => rfl]
  cases latest? ps language <;> simp [Provider.watched]

theorem getElem?_answers (before : List (Provider m)) (p : Provider m)
    (after : List (Provider m)) :
    (answers (before ++ p :: after))[before.length]? = some (latest? before p.language) := by
  rw [answers, registerAll_append, ← length_registerAll empty before,
    List.getElem?_append_right (Nat.le_refl _), Nat.sub_self]
  exact congrArg some (get?_ofProviders before p.language)

theorem get?_ofProviders_concat_of_ne (before : List (Provider m)) (p : Provider m)
    {language : String} (h : language ≠ p.language) :
    (ofProviders (before ++ [p])).get? language = (ofProviders before).get? language := by
  rw [get?_ofProviders, get?_ofProviders, latest?_concat, if_neg h]

theorem distinct_ofProviders (ps : List (Provider m)) : (ofProviders ps).Distinct :=
  distinct_empty.registerAll ps

/-- The providers registered are those held and those handed back. -/
theorem perm_held_answers (ps : List (Provider m)) :
    ps.Perm ((ofProviders ps).held ++ (answers ps).reduceOption) := by
  calc ps
    _ = ps ++ (empty : Registry m).providers := (List.append_nil ps).symm
    _ |>.Perm ((ofProviders ps).providers ++ (answers ps).reduceOption) :=
      perm_registerAll empty ps
    _ |>.Perm ((ofProviders ps).held ++ (answers ps).reduceOption) :=
      (distinct_ofProviders ps).held_perm.symm.append_right _

theorem mem_languages_ofProviders (ps : List (Provider m)) (language : String) :
    language ∈ (ofProviders ps).languages ↔ language ∈ ps.map Provider.language :=
  (mem_languages_registerAll empty ps language).trans
    (or_iff_left fun h => List.not_mem_nil (mem_languages.1 h))

/-- **Registering is writing to a map that loses nothing.** Whatever providers are registered in
whatever order, a language has the provider registered last for it; a call hands back the provider
it replaces and leaves the other languages alone; what is held and what was handed back are the
providers registered; the languages are those registered, in the order of their bytes; and a compile
is that of the provider held, reaching it alone, or `unknownLanguage`, reaching nobody. -/
theorem register_run {σ : Type} (ps : List (Provider (StateM σ))) :
    (∀ language, (ofProviders ps).get? language = latest? ps language ∧
      ((ofProviders ps).get? language = none ↔ language ∉ ps.map Provider.language)) ∧
    (answers ps).length = ps.length ∧
    (∀ before p after, ps = before ++ p :: after →
      (answers ps)[before.length]? = some (latest? before p.language) ∧
      ∀ language ≠ p.language,
        (ofProviders (before ++ [p])).get? language = (ofProviders before).get? language) ∧
    ps.Perm ((ofProviders ps).held ++ (answers ps).reduceOption) ∧
    (ofProviders ps).languages.Pairwise (fun a b => Text.Utf8.encode a < Text.Utf8.encode b) ∧
    (∀ language, language ∈ (ofProviders ps).languages ↔ language ∈ ps.map Provider.language) ∧
    (ofProviders ps).size = (ofProviders ps).languages.length ∧
    ((ofProviders ps).isEmpty = true ↔ (ofProviders ps).size = 0) ∧
    ∀ language u s,
      (∀ p, (ofProviders ps).get? language = some p →
        (ofProviders ps).compile language u = p.compile u) ∧
      (((ofProviders (ps.map Provider.watched)).compile language u).run []).run s =
        (((((ofProviders ps).compile language u).run s).1,
          ((ofProviders ps).get? language).toList),
          (((ofProviders ps).compile language u).run s).2) ∧
      ((((ofProviders ps).compile language u).run s = (.error (.unknownLanguage language), s) ∧
          ((((ofProviders (ps.map Provider.watched)).compile language u).run []).run s).1.2 = []) ↔
        language ∉ ps.map Provider.language) := by
  have hnone (language) :
      (ofProviders ps).get? language = none ↔ language ∉ ps.map Provider.language := by
    rw [get?_ofProviders, latest?_eq_none_iff]
  have hwatched (language u s) :
      (((ofProviders (ps.map Provider.watched)).compile language u).run []).run s =
        (((((ofProviders ps).compile language u).run s).1,
          ((ofProviders ps).get? language).toList),
          (((ofProviders ps).compile language u).run s).2) := by
    rw [compile_watched, get?_ofProviders]
    rfl
  refine ⟨fun language => ⟨get?_ofProviders ps language, hnone language⟩,
    length_registerAll _ ps, ?_, perm_held_answers ps,
    (distinct_ofProviders ps).languages_increase.imp Text.Utf8.encode_lt_encode_iff.2,
    mem_languages_ofProviders ps,
    by simp [size, languages], by simp [isEmpty, size],
    fun language u s => ⟨fun p hp => ?_, hwatched language u s, ?_⟩⟩
  · rintro before p after rfl
    exact ⟨getElem?_answers before p after, fun language => get?_ofProviders_concat_of_ne before p⟩
  · rw [compile, hp]
  · rw [hwatched, ← hnone]
    constructor
    · rintro ⟨-, hreached⟩
      simpa using hreached
    · intro h
      rw [h, compile, h]
      exact ⟨rfl, rfl⟩

end Registry

end CSharpBuild
