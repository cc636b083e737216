/-
Warnings are said twice: they travel with a result, and the log is told of each. Neither says more
than the other. Against a host that does not warn on its own account the log of a request has exactly
the warnings that were raised, once each and in order, also when the request fails and there is no
result for them to travel with (`warnings_are_logged`).

A composition raises and logs a warning in one step, so the two can be compared on its traces
(`warned_compose`). A preparation is taken apart into its selection, the announcement of a missing
compiler, the composition and the choice of a command (`prepare_eq`), of which the last is silent.
-/
import Mathlib.Control.Monad.Basic
import CSharpBuild.Proofs.Session

namespace CSharpBuild

open Plan

/-! ## Hosts that do not warn -/

/-- The host wrote no warning while it answered. -/
def Answer.Discreet {σ α : Type} (a : Answer σ α) : Prop := ∀ entry ∈ a.log, entry.level ≠ .warn

/-- A host that never warns, whatever it is asked. It may write other entries to the log. -/
structure Host.Discreet {σ : Type} (host : Host σ) : Prop where
  probe : ∀ path s, (host.probe path s).Discreet
  defaultCommand : ∀ s, (host.defaultCommand s).Discreet
  run : ∀ command s, (host.run command s).Discreet

theorem Doubles.FileSet.discreet_host (default : Except Failure Command) (rules : List Rule) :
    (host default rules).Discreet :=
  ⟨fun _ _ => List.forall_mem_nil _, fun _ => List.forall_mem_nil _, fun _ _ => List.forall_mem_nil _⟩

namespace Event

theorem warning?_logged_of_ne {entry : LogEntry} (h : entry.level ≠ .warn) :
    (logged entry).warning? = none :=
  if_neg h

end Event

namespace Answer

variable {σ α : Type} {a : Answer σ α}

theorem Discreet.filterMap_log (h : a.Discreet) :
    (a.log.map Event.logged).filterMap Event.warning? = [] := by
  rw [List.filterMap_map]
  exact List.filterMap_eq_nil_iff.2 fun entry hentry => Event.warning?_logged_of_ne (h entry hentry)

/-- What such a host logs makes no difference to the warnings. -/
theorem Discreet.filterMap_events (h : a.Discreet) (question : α → Event) :
    (a.silenced.events question).filterMap Event.warning? =
      (a.events question).filterMap Event.warning? := by
  rw [events, events, List.filterMap_append, List.filterMap_append, h.filterMap_log]
  rfl

end Answer

namespace Plan

variable {σ α β : Type} {host : Host σ}

theorem warned_execute_silenced (h : host.Discreet) (p : Plan α) (s : σ) :
    (p.execute host.silenced s).warned = (p.execute host s).warned := by
  simp only [Execution.warned]
  induction p generalizing s with
  | done v => rfl
  | probe path next ih =>
    simp only [execute, Execution.prepend, List.filterMap_append,
      ← (h.probe path s).filterMap_events]
    exact congrArg _ (ih _ _)
  | askDefault next ih =>
    simp only [execute, Execution.prepend, List.filterMap_append,
      ← (h.defaultCommand s).filterMap_events]
    exact congrArg _ (ih _ _)
  | run command next ih =>
    simp only [execute, Execution.prepend, List.filterMap_append,
      ← (h.run command s).filterMap_events]
    exact congrArg _ (ih _ _)
  | log entry next ih =>
    simp only [execute, Execution.prepend, List.filterMap_append]
    rw [ih]

theorem warned_execute_bind (p : Plan α) (f : α → Plan β) (s : σ) :
    ((p >>= f).execute host s).warned =
      (p.execute host s).warned
        ++ ((f (p.execute host s).value).execute host (p.execute host s).state).warned := by
  rw [execute_bind]
  exact List.filterMap_append

end Plan

namespace Compiler

variable {σ : Type} {host : Host σ} (c : Compiler) (u : BuildUnit) (s : σ)

/-! ## The steps of a preparation -/

theorem warned_select (h : host.Discreet) (base : Path) :
    ((c.select base u).execute host s).warned = [] := by
  obtain ⟨found, -, hevents⟩ := trace_select (trace_execute host (c.select base u) s)
  rw [← warned_execute_silenced h, Execution.warned, hevents]
  rfl

/-- A composition logs what it warns of. -/
theorem warned_compose (h : host.Discreet) (epoch : Epoch) (t : Toolchain) :
    let x := (c.compose u epoch t).execute host s
    x.warned = x.value.warnings.map Warning.entry := by
  intro x
  obtain ⟨f, -, hevents, hvalue⟩ := trace_compose (trace_execute host (c.compose u epoch t) s)
  rw [← warned_execute_silenced h, ← value_execute_silenced, Execution.warned, hevents, hvalue,
    f.warned_events c epoch u t]

theorem warned_settle (h : host.Discreet) (missing : List Warning) (composed : Composition) :
    ((c.settle missing composed).execute host s).warned = [] := by
  rw [← warned_execute_silenced h, Execution.warned]
  have htrace := trace_execute host (c.settle missing composed) s
  cases hexe : executable? composed.toolchain with
  | some executable => rw [(trace_settle_primary hexe htrace).1]; rfl
  | none =>
    obtain ⟨answer, hevents, -⟩ := trace_settle_fallback hexe htrace
    rw [hevents]
    rfl

theorem warnings_settle {missing : List Warning} {composed : Composition} {p : Prepared}
    (h : ((c.settle missing composed).execute host s).value = .ok p) :
    p.warnings = missing ++ composed.warnings := by
  have htrace := trace_execute host (c.settle missing composed) s
  rw [value_execute_silenced, h] at htrace
  cases hexe : executable? composed.toolchain with
  | some executable => cases (trace_settle_primary hexe htrace).2; rfl
  | none =>
    obtain ⟨answer, -, hvalue⟩ := trace_settle_fallback hexe htrace
    cases answer with
    | error failure => cases hvalue
    | ok default => cases hvalue; rfl

/-- The warnings that are raised before it is settled whether there is anything to prepare: by the
selection, and by the composition that follows it. -/
def raised (host : Host σ) (c : Compiler) (u : BuildUnit) (s : σ) : List Warning :=
  c.announced ((c.select c.config.projectRoot u).execute host s).value
    ++ (composing host s c u).value.warnings

theorem warned_prepare (h : host.Discreet) :
    ((c.prepare u).execute host s).warned = (raised host c u s).map Warning.entry := by
  have hannounced (ws : List Warning) :
      (ws.map fun w => Event.logged w.entry).filterMap Event.warning? = ws.map Warning.entry := by
    rw [Event.filterMap_warnings]
    exact congrFun List.filterMap_eq_map' ws
  rw [prepare_eq, warned_execute_bind, warned_select c u s h, List.nil_append, warned_execute_bind,
    execute_announce, warned_execute_bind, warned_compose c u _ h, warned_settle c _ h,
    List.append_nil, raised, List.map_append]
  exact congrArg (· ++ _) (hannounced _)

theorem warnings_prepare {p : Prepared} (h : ((c.prepare u).execute host s).value = .ok p) :
    p.warnings = raised host c u s := by
  rw [execute_prepare, execute_announce] at h
  exact warnings_settle c _ h

/-! ## The run behind a preparation -/

theorem warned_runEvents {a : Answer σ (Except String Output)} (h : a.Discreet) (p : Prepared) :
    (runEvents u p a.log a.value).filterMap Event.warning? = [] := by
  rw [runEvents, List.filterMap_append, List.filterMap_append, List.filterMap_append,
    h.filterMap_log]
  split <;> rfl

theorem warned_compile (h : host.Discreet) :
    ((c.compile u).execute host s).warned = ((c.prepare u).execute host s).warned := by
  cases hvalue : ((c.prepare u).execute host s).value with
  | error failure => rw [execute_compile_of_error c u host s hvalue]; rfl
  | ok p =>
    rw [execute_compile_of_ok c u host s hvalue, Execution.warned, List.filterMap_append,
      warned_runEvents u (h.run _ _) p, List.append_nil]
    rfl

theorem warnings_compile {result : Compiled}
    (h : ((c.compile u).execute host s).value = .ok result) :
    ∃ p, ((c.prepare u).execute host s).value = .ok p ∧ result.warnings = p.warnings := by
  cases hvalue : ((c.prepare u).execute host s).value with
  | error failure => rw [execute_compile_of_error c u host s hvalue] at h; cases h
  | ok p =>
    rw [execute_compile_of_ok c u host s hvalue] at h
    refine ⟨p, rfl, ?_⟩
    unfold verdict at h
    split at h
    · cases h
    · split at h
      · cases h; rfl
      · cases h

/-- **The warnings that are returned are the warnings that are logged.** Selecting a backend warns of
nothing. The log has the warnings of a composition, once each and in order. In the same way it has
those that a preparation raises and a compile passes on, whether or not a default compiler is
refused, the compiler does not start or it rejects the unit; and where there is a result, they are
the warnings of the result. -/
theorem warnings_are_logged {σ : Type} (host : Host σ) (h : host.Discreet) (s : σ) (c : Compiler)
    (u : BuildUnit) (epoch : Epoch) (t : Toolchain) (base : Path) :
    let selection := (c.select base u).execute host s
    let composition := (c.compose u epoch t).execute host s
    let preparation := (c.prepare u).execute host s
    let run := (c.compile u).execute host s
    selection.warned = [] ∧
    composition.warned =
      composition.value.warnings.map (fun w => ⟨.warn, w.message, w.location⟩) ∧
    preparation.warned = (raised host c u s).map (fun w => ⟨.warn, w.message, w.location⟩) ∧
    (∀ p, preparation.value = .ok p → p.warnings = raised host c u s) ∧
    run.warned = (raised host c u s).map (fun w => ⟨.warn, w.message, w.location⟩) ∧
    ∀ result, run.value = .ok result → result.warnings = raised host c u s := by
  refine ⟨warned_select c u s h base, warned_compose c u s h epoch t, warned_prepare c u s h,
    fun p => warnings_prepare c u s, ?_, fun result hresult => ?_⟩
  · rw [warned_compile c u s h]
    exact warned_prepare c u s h
  · obtain ⟨p, hp, hwarnings⟩ := warnings_compile c u s hresult
    rw [hwarnings]
    exact warnings_prepare c u s hp

/-- A host without a default compiler, and a primary compiler that is gone at the second look: the
preparation fails, and the log has both of its warnings. -/
theorem warnings_are_logged_when_refused :
    let host := Doubles.FileSet.host (.error Doubles.SampleCompiler.noDefault) []
    let c : Compiler := ⟨Config.ofRoot ⟨"/game"⟩, Doubles.SampleCompiler.standard.layout, 42⟩
    let executable : Path := ⟨"/game/Compiler/UniversalCompiler.exe"⟩
    let start := (Doubles.FileSet.ofPaths [executable, ⟨"/game/gmcs.rsp"⟩]).expire executable 1
    let preparation := (c.prepare Doubles.sampleUnit).execute host start
    host.Discreet ∧ preparation.value = .error Doubles.SampleCompiler.noDefault ∧
    preparation.warned = [
      ⟨.warn, "Universal C# compiler no longer found at /game/Compiler/UniversalCompiler.exe. "
        ++ "Use the default compiler", some ⟨"/game/Compiler/UniversalCompiler.exe"⟩⟩,
      ⟨.warn, "Using obsolete custom response file 'gmcs.rsp'. Please use 'mcs.rsp' instead.",
        some ⟨"gmcs.rsp"⟩⟩] := by
  intro host c executable start preparation
  have hdiscreet : host.Discreet := Doubles.FileSet.discreet_host _ _
  obtain ⟨-, -, hwarned, -⟩ := warnings_are_logged host hdiscreet start c Doubles.sampleUnit
    .current (.fallback []) c.config.projectRoot
  have hraised : raised host c Doubles.sampleUnit start = [.compilerVanished executable,
      .obsoleteResponseFile "gmcs.rsp" "mcs.rsp" ⟨"gmcs.rsp"⟩] := by decide +kernel
  refine ⟨hdiscreet, by decide +kernel, ?_⟩
  rw [hraised] at hwarned
  exact hwarned.trans (by decide +kernel)

end Compiler

end CSharpBuild
