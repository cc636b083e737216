/-
Sessions: requests to one compiler, in any order and against any host. Files may come and go between
two looks, and the host may answer each run as it likes.

What runs is what the compile requests have prepared, each command once (`serve_runs_what_it_prepares`).
The induction is on the requests. It needs that nothing but a compile reaches the runner, which is
read off the traces (`Plan.Preliminary`), and what a compile does behind its preparation
(`execute_compile_of_ok`).
-/
import CSharpBuild.Doubles.FileSet
import CSharpBuild.Doubles.Sample
import CSharpBuild.Proofs.Preparation

namespace CSharpBuild

open Plan

/-! ## Plans that do not reach the runner -/

theorem LogEntry.level_debug_ne_info (message : String) : (debug message).level ≠ .info := nofun

theorem Warning.level_entry_ne_info (w : Warning) : w.entry.level ≠ .info := nofun

namespace Event

/-- A log entry that reports progress. -/
def report? : Event → Option LogEntry
  | .logged entry => if entry.level = .info then some entry else none
  | _ => none

/-- An event that may come before a run: a question about files or the default compiler, or an entry
that does not report progress. -/
def Preliminary (event : Event) : Prop := event.ranCommand? = none ∧ event.report? = none

theorem preliminary_probed (path : Path) (found : Bool) : (probed path found).Preliminary :=
  ⟨rfl, rfl⟩

theorem preliminary_logged {entry : LogEntry} (h : entry.level ≠ .info) :
    (logged entry).Preliminary :=
  ⟨rfl, if_neg h⟩

theorem preliminary_glance {path : Path} {found : Bool} {absent : LogEntry}
    (h : absent.level ≠ .info) : ∀ event ∈ glance path found absent, event.Preliminary := by
  rw [glance, List.forall_mem_cons]
  refine ⟨preliminary_probed path found, ?_⟩
  cases found
  · exact List.forall_mem_singleton.2 (preliminary_logged h)
  · exact List.forall_mem_nil _

end Event

/-- The progress an execution reports. -/
def Execution.reports {σ α : Type} (x : Execution σ α) : List LogEntry :=
  x.events.filterMap Event.report?

/-- A plan that runs nothing and reports no progress, whatever it is answered. -/
def Plan.Preliminary {α : Type} (p : Plan α) : Prop :=
  ∀ events v, p.Trace events v → ∀ event ∈ events, event.Preliminary

namespace Plan.Preliminary

variable {σ α β : Type} {p : Plan α} (h : p.Preliminary) (host : Host σ) (s : σ)
include h

theorem commands_eq_nil : (p.execute host s).commands = [] := by
  rw [Execution.commands, ← asked_execute_silenced host fun _ => rfl]
  exact List.filterMap_eq_nil_iff.2 fun event hevent => (h _ _ (trace_execute host p s) event hevent).1

theorem reports_eq_nil : (p.execute host.silenced s).reports = [] :=
  List.filterMap_eq_nil_iff.2 fun event hevent => (h _ _ (trace_execute host p s) event hevent).2

end Plan.Preliminary

namespace Findings

theorem preliminary_events (f : Findings) (c : Compiler) (epoch : Epoch) :
    ∀ event ∈ f.events c epoch, event.Preliminary := by
  have hglances {α : Type} (looks : List α) (path : α → Path) (found : α → Bool)
      {absent : α → LogEntry} (h : ∀ a, (absent a).level ≠ .info) :
      ∀ event ∈ looks.flatMap fun a => Event.glance (path a) (found a) (absent a),
        event.Preliminary := by
    intro event hevent
    obtain ⟨a, -, hglance⟩ := List.mem_flatMap.1 hevent
    exact Event.preliminary_glance (h a) event hglance
  simp only [events, List.forall_mem_append, List.forall_mem_map]
  exact ⟨⟨⟨hglances _ _ _ fun look => Warning.level_entry_ne_info _,
    hglances _ _ _ fun look => LogEntry.level_debug_ne_info _⟩,
    hglances _ _ _ fun look => LogEntry.level_debug_ne_info _⟩,
    fun w _ => Event.preliminary_logged w.level_entry_ne_info⟩

theorem preliminary_preparation (f : Findings) (c : Compiler) (u : BuildUnit) (found : Bool) :
    ∀ event ∈ f.preparation c u found, event.Preliminary := by
  simp only [preparation, List.forall_mem_append, List.forall_mem_cons]
  refine ⟨⟨⟨Event.preliminary_probed _ _,
    Event.preliminary_logged (LogEntry.level_debug_ne_info _), List.forall_mem_nil _⟩, ?_⟩,
    f.preliminary_events c c.config.epoch⟩
  split
  · exact List.forall_mem_nil _
  · exact List.forall_mem_singleton.2 (Event.preliminary_logged (Warning.level_entry_ne_info _))

end Findings

namespace Compiler

variable (c : Compiler) (u : BuildUnit)

theorem preliminary_select (base : Path) : (c.select base u).Preliminary := by
  intro events t h
  obtain ⟨found, -, rfl⟩ := trace_select h
  simp only [List.forall_mem_cons]
  exact ⟨Event.preliminary_probed _ _, Event.preliminary_logged (LogEntry.level_debug_ne_info _),
    List.forall_mem_nil _⟩

theorem preliminary_compose (epoch : Epoch) (t : Toolchain) :
    (c.compose u epoch t).Preliminary := by
  intro events composition h
  obtain ⟨f, -, rfl, -⟩ := trace_compose h
  exact f.preliminary_events c epoch

theorem preliminary_prepare : (c.prepare u).Preliminary := by
  intro events result h
  obtain ⟨found, f, -, ⟨-, rfl, -⟩ | ⟨-, answer, rfl, -⟩⟩ := trace_prepare h
  · exact f.preliminary_preparation c u found
  · exact List.forall_mem_append.2 ⟨f.preliminary_preparation c u found,
      List.forall_mem_singleton.2 ⟨rfl, rfl⟩⟩

/-! ## One compile -/

/-- What the log is told before a run. -/
def startEntry (u : BuildUnit) (p : Prepared) : LogEntry :=
  .info ("compiling target " ++ u.output.text ++ " with the " ++ p.toolchain.backend.name
    ++ " compiler")

/-- What the log is told after a run that went well. -/
def finishEntry (u : BuildUnit) : LogEntry := .info (u.output.text ++ " build finished")

/-- What a compile does behind its preparation. -/
def carryOut (u : BuildUnit) (p : Prepared) : Plan (Except Failure Compiled) := do
  note (startEntry u p)
  let answer ← launch p.command
  match verdict p answer with
  | .error failure => pure (.error failure)
  | .ok compiled =>
    note (finishEntry u)
    pure (.ok compiled)

theorem compile_eq : c.compile u = (do
    match ← c.prepare u with
    | .error failure => pure (.error failure)
    | .ok p => carryOut u p) := rfl

/-- The events of one run: what is reported before it, the run, and what is reported after it. -/
def runEvents (u : BuildUnit) (p : Prepared) (answer : List LogEntry) (result : Except String Output) :
    List Event :=
  [.logged (startEntry u p)] ++ answer.map .logged ++ [.ran p.command result]
    ++ if (verdict p result).isOk then [.logged (finishEntry u)] else []

theorem execute_carryOut {σ : Type} (host : Host σ) (p : Prepared) (s : σ) :
    let a := host.run p.command s
    (carryOut u p).execute host s = ⟨verdict p a.value, runEvents u p a.log a.value, a.state⟩ := by
  intro a
  unfold carryOut
  simp only [note, launch, log_bind, run_bind, done_bind, execute]
  cases h : verdict p a.value <;>
    simp [h, a, execute, Execution.prepend, Answer.events, runEvents, Except.isOk, Except.toBool]

variable {σ : Type} (host : Host σ) (s : σ)

theorem execute_compile_of_error {failure : Failure}
    (h : ((c.prepare u).execute host s).value = .error failure) :
    let preparation := (c.prepare u).execute host s
    (c.compile u).execute host s = ⟨.error failure, preparation.events, preparation.state⟩ := by
  rw [compile_eq, execute_bind, h]
  exact congrArg (Execution.mk _ · _) (List.append_nil _)

/-- **Behind its preparation a compile is one run.** -/
theorem execute_compile_of_ok {p : Prepared} (h : ((c.prepare u).execute host s).value = .ok p) :
    let preparation := (c.prepare u).execute host s
    let a := host.run p.command preparation.state
    (c.compile u).execute host s =
      ⟨verdict p a.value, preparation.events ++ runEvents u p a.log a.value, a.state⟩ := by
  intro preparation a
  rw [compile_eq, execute_bind, h]
  exact congrArg (Execution.prepend _) (execute_carryOut u host p preparation.state)

theorem commands_runEvents (p : Prepared) (log : List LogEntry) (result : Except String Output) :
    (runEvents u p log result).filterMap Event.ranCommand? = [p.command] := by
  have hlog : (log.map Event.logged).filterMap Event.ranCommand? = [] := by
    rw [List.filterMap_map]
    exact List.filterMap_eq_nil_iff.2 fun _ _ => rfl
  rw [runEvents, List.filterMap_append, List.filterMap_append, List.filterMap_append, hlog]
  split <;> rfl

theorem reports_runEvents (p : Prepared) (result : Except String Output) :
    (runEvents u p [] result).filterMap Event.report? =
      startEntry u p :: if (verdict p result).isOk then [finishEntry u] else [] := by
  rw [runEvents]
  split <;> rfl

theorem reports_compile_of_error {failure : Failure}
    (h : ((c.prepare u).execute host s).value = .error failure) :
    ((c.compile u).execute host.silenced s).reports = [] := by
  rw [← value_execute_silenced] at h
  rw [execute_compile_of_error c u host.silenced s h]
  exact (c.preliminary_prepare u).reports_eq_nil host s

/-- A compile reports that it starts its run and, unless it fails, that it is done. -/
theorem reports_compile_of_ok {p : Prepared} (h : ((c.prepare u).execute host s).value = .ok p) :
    ((c.compile u).execute host.silenced s).reports =
      startEntry u p ::
        if ((c.compile u).execute host s).value.isOk then [finishEntry u] else [] := by
  have hpreparation := (c.preliminary_prepare u).reports_eq_nil host s
  rw [Execution.reports] at hpreparation
  rw [← value_execute_silenced] at h
  rw [← value_execute_silenced, execute_compile_of_ok c u host.silenced s h, Execution.reports,
    List.filterMap_append, hpreparation]
  exact reports_runEvents u p _

/-- The verdict on a run, for each of the ways it may end. -/
theorem verdict_cases (p : Prepared) (result : Except String Output) :
    (∀ cause, result = .error cause →
      verdict p result = .error (.notStarted p.command.program cause)) ∧
    (∀ output, result = .ok output → output.code ≠ some 0 →
      verdict p result = .error (.rejected p.command.program output)) ∧
    ∀ output, result = .ok output → output.code = some 0 →
      verdict p result = .ok ⟨p.toolchain, p.command, output, p.warnings⟩ := by
  refine ⟨?_, ?_, ?_⟩
  · rintro cause rfl
    rfl
  · rintro output rfl hcode
    exact if_neg fun h => hcode (of_decide_eq_true h)
  · rintro output rfl hcode
    exact if_pos (decide_eq_true hcode)

end Compiler

/-! ## Requests in any order -/

/-- What may be asked of a compiler. -/
inductive Request where
  | select (base : Path) (unit : BuildUnit)
  | compose (unit : BuildUnit) (epoch : Epoch) (toolchain : Toolchain)
  | prepare (unit : BuildUnit)
  | compile (unit : BuildUnit)

/-- What is answered to a request. -/
inductive Reply where
  | selected (toolchain : Toolchain)
  | composed (composition : Composition)
  | prepared (result : Except Failure Prepared)
  | compiled (result : Except Failure Compiled)

namespace Compiler

/-- Answer one request. -/
def answer (c : Compiler) : Request → Plan Reply
  | .select base u => do return .selected (← c.select base u)
  | .compose u epoch t => do return .composed (← c.compose u epoch t)
  | .prepare u => do return .prepared (← c.prepare u)
  | .compile u => do return .compiled (← c.compile u)

/-- Answer requests one after another. -/
def serve (c : Compiler) : List Request → Plan (List Reply)
  | [] => pure []
  | request :: requests => do
    let reply ← c.answer request
    let replies ← c.serve requests
    pure (reply :: replies)

variable {σ : Type}

/-- The requests of a session, each with the state the host is in when its turn comes. -/
def turns (host : Host σ) (c : Compiler) : List Request → σ → List (Request × σ)
  | [], _ => []
  | request :: requests, s =>
    (request, s) :: turns host c requests ((c.answer request).execute host s).state

/-- The command that a request has to run: the one a compile prepares, if it prepares one. -/
def due (host : Host σ) (c : Compiler) : Request × σ → Option Command
  | (.compile u, s) => ((c.prepare u).execute host s).value.toOption.map Prepared.command
  | _ => none

variable (host : Host σ) (c : Compiler)

theorem commands_compile (u : BuildUnit) (s : σ) :
    ((c.compile u).execute host s).commands = (due host c (.compile u, s)).toList := by
  have hpreparation : ((c.prepare u).execute host s).commands = [] :=
    (c.preliminary_prepare u).commands_eq_nil host s
  rw [Execution.commands] at hpreparation
  cases h : ((c.prepare u).execute host s).value with
  | error failure =>
    rw [execute_compile_of_error c u host s h, Execution.commands, hpreparation, due, h]
    rfl
  | ok p =>
    rw [execute_compile_of_ok c u host s h, Execution.commands, List.filterMap_append,
      hpreparation, commands_runEvents, due, h]
    rfl

theorem execute_bind_pure {α β : Type} (p : Plan α) (f : α → β) (s : σ) :
    (p >>= fun v => pure (f v)).execute host s =
      ⟨f (p.execute host s).value, (p.execute host s).events, (p.execute host s).state⟩ := by
  rw [execute_bind]
  exact congrArg (Execution.mk _ · _) (List.append_nil _)

/-- A request reaches the runner with the command that is due, and otherwise not at all. -/
theorem commands_answer (request : Request) (s : σ) :
    ((c.answer request).execute host s).commands = (due host c (request, s)).toList := by
  cases request with
  | select base u =>
    rw [answer, execute_bind_pure]
    exact (c.preliminary_select u base).commands_eq_nil host s
  | compose u epoch t =>
    rw [answer, execute_bind_pure]
    exact (c.preliminary_compose u epoch t).commands_eq_nil host s
  | prepare u =>
    rw [answer, execute_bind_pure]
    exact (c.preliminary_prepare u).commands_eq_nil host s
  | compile u =>
    rw [answer, execute_bind_pure]
    exact commands_compile host c u s

theorem execute_serve (requests : List Request) (s : σ) :
    ((c.serve requests).execute host s).value =
        (turns host c requests s).map (fun turn => ((c.answer turn.1).execute host turn.2).value) ∧
      ((c.serve requests).execute host s).commands =
        (turns host c requests s).filterMap (due host c) := by
  induction requests generalizing s with
  | nil => exact ⟨rfl, rfl⟩
  | cons request requests ih =>
    obtain ⟨hvalue, hcommands⟩ := ih ((c.answer request).execute host s).state
    have hfirst := commands_answer host c request s
    rw [Execution.commands] at hfirst hcommands
    rw [serve, execute_bind, execute_bind_pure, turns]
    refine ⟨congrArg (_ :: ·) hvalue, ?_⟩
    rw [Execution.commands, Execution.prepend, List.filterMap_append, hfirst, hcommands,
      List.filterMap_cons]
    cases due host c (request, s) <;> rfl

theorem map_turns (requests : List Request) (s : σ) :
    (turns host c requests s).map (·.1) = requests := by
  induction requests generalizing s with
  | nil => rfl
  | cons request requests ih => rw [turns, List.map_cons, ih]

/-- **A session runs what its compiles prepare, and nothing else.** The runner gets the commands
that are due, in the order of the requests and each of them once. A compile whose preparation fails
fails alike and runs nothing. Any other compile is its preparation and one run, which it reports
before and, if the exit code is zero, after; what comes of it is what came of that run. -/
theorem serve_runs_what_it_prepares {σ : Type} (host : Host σ) (s : σ) (c : Compiler)
    (requests : List Request) :
    let x := (c.serve requests).execute host s
    (turns host c requests s).map (·.1) = requests ∧
    x.value = (turns host c requests s).map
      (fun turn => ((c.answer turn.1).execute host turn.2).value) ∧
    x.commands = (turns host c requests s).filterMap (due host c) ∧
    (∀ turn ∈ turns host c requests s,
      ((c.answer turn.1).execute host turn.2).commands = (due host c turn).toList) ∧
    ∀ (u : BuildUnit) (start : σ),
      let preparation := (c.prepare u).execute host start
      let y := (c.compile u).execute host start
      let reports := ((c.compile u).execute host.silenced start).reports
      (∀ failure, preparation.value = .error failure →
        y.value = .error failure ∧ y.events = preparation.events ∧ reports = []) ∧
      ∀ p, preparation.value = .ok p →
        let a := host.run p.command preparation.state
        y.commands = [p.command] ∧
        y.events = preparation.events ++ runEvents u p a.log a.value ∧
        reports = startEntry u p :: (if y.value.isOk then [finishEntry u] else []) ∧
        (∀ cause, a.value = .error cause →
          y.value = .error (.notStarted p.command.program cause)) ∧
        (∀ output, a.value = .ok output → output.code ≠ some 0 →
          y.value = .error (.rejected p.command.program output)) ∧
        ∀ output, a.value = .ok output → output.code = some 0 →
          y.value = .ok ⟨p.toolchain, p.command, output, p.warnings⟩ := by
  obtain ⟨hvalue, hcommands⟩ := execute_serve host c requests s
  refine ⟨map_turns host c requests s, hvalue, hcommands,
    fun turn _ => commands_answer host c turn.1 turn.2, fun u start => ⟨?_, ?_⟩⟩
  · intro failure hfailure
    rw [execute_compile_of_error c u host start hfailure]
    exact ⟨rfl, rfl, reports_compile_of_error c u host start hfailure⟩
  · intro p hp a
    have hcompile := execute_compile_of_ok c u host start hp
    refine ⟨?_, congrArg Execution.events hcompile, reports_compile_of_ok c u host start hp, ?_⟩
    · rw [commands_compile, due, hp]
      rfl
    · rw [hcompile]
      exact verdict_cases p a.value

/-- The preparation runs nothing. The primary compiler is gone after its first run, and the second
compile runs the host's default compiler. -/
example :
    let host := Doubles.FileSet.host (.ok Doubles.SampleCompiler.monoCommand) []
    let c : Compiler := ⟨Config.ofRoot ⟨"/game"⟩, Doubles.SampleCompiler.standard.layout, 42⟩
    let executable := c.primaryPath c.config.projectRoot
    let u := Doubles.sampleUnit
    let x := (c.serve [.prepare u, .compile u, .compile u]).execute host
      ((Doubles.FileSet.ofPaths [executable]).expire executable 4)
    x.commands.map Command.program = [executable, ⟨"/mono/bin/mono"⟩] := by
  decide +kernel

end Compiler

end CSharpBuild
