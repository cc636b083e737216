/-
The traces of a plan: every way it can be carried out, with the answers left open. `Plan.Trace`
relates a plan to what it does itself and to the value it ends with, so a statement about all traces
is one about all sequences of answers.

A plan is taken apart along its binds (`trace_bind`), one question at a time (`trace_look`,
`trace_note` and their like). A host may write to the log while it answers; `Host.silenced` answers
alike and writes nothing. Carried out against it a plan goes through one of its traces
(`trace_execute`), with the value and the questions it has against the host itself
(`value_execute_silenced`, `asked_execute_silenced`).
-/
import CSharpBuild.Host

namespace CSharpBuild

namespace Event

/-- A probe and its answer. -/
def look? : Event → Option (Path × Bool)
  | .probed path found => some (path, found)
  | _ => none

/-- What the host answered when it was asked for its default compiler. -/
def default? : Event → Option (Except Failure Command)
  | .askedDefault answer => some answer
  | _ => none

/-- A log entry that warns. -/
def warning? : Event → Option LogEntry
  | .logged entry => if entry.level = .warn then some entry else none
  | _ => none

end Event

namespace Execution

/-- The probes of an execution, in order, with their answers. -/
def looks {σ α : Type} (x : Execution σ α) : List (Path × Bool) := x.events.filterMap Event.look?

/-- What the host told of its default compiler, once for each time it was asked. -/
def defaults {σ α : Type} (x : Execution σ α) : List (Except Failure Command) :=
  x.events.filterMap Event.default?

/-- The log entries of an execution that warn. -/
def warned {σ α : Type} (x : Execution σ α) : List LogEntry := x.events.filterMap Event.warning?

theorem probes_eq_map_looks {σ α : Type} (x : Execution σ α) : x.probes = x.looks.map (·.1) := by
  have h : Event.probedPath? = fun event => event.look?.map (·.1) := by
    funext event
    cases event <;> rfl
  rw [probes, looks, List.map_filterMap, h]

end Execution

namespace Plan

/-- `p.Trace events v`: some answers take `p` through `events` to the value `v`. -/
inductive Trace {α : Type} : Plan α → List Event → α → Prop where
  | done (v : α) : Trace (.done v) [] v
  | probe {path next events v} (found : Bool) :
      Trace (next found) events v → Trace (.probe path next) (.probed path found :: events) v
  | askDefault {next events v} (answer : Except Failure Command) :
      Trace (next answer) events v → Trace (.askDefault next) (.askedDefault answer :: events) v
  | run {command next events v} (answer : Except String Output) :
      Trace (next answer) events v → Trace (.run command next) (.ran command answer :: events) v
  | log {entry next events v} :
      Trace next events v → Trace (.log entry next) (.logged entry :: events) v

/-! ## Taking plans apart -/

variable {α β : Type}

theorem trace_pure {v w : α} {events : List Event} :
    (pure v : Plan α).Trace events w ↔ events = [] ∧ w = v := by
  constructor
  · intro h; cases h; exact ⟨rfl, rfl⟩
  · rintro ⟨rfl, rfl⟩; exact .done w

theorem trace_look {path : Path} {found : Bool} {events : List Event} :
    (look path).Trace events found ↔ events = [.probed path found] := by
  constructor
  · intro h
    cases h with
    | probe answer h => cases h; rfl
  · rintro rfl; exact .probe found (.done found)

theorem trace_note {entry : LogEntry} {events : List Event} {v : Unit} :
    (note entry).Trace events v ↔ events = [.logged entry] := by
  constructor
  · intro h
    cases h with
    | log h => cases h; rfl
  · rintro rfl; exact .log (.done v)

theorem trace_defaultCommand {answer : Except Failure Command} {events : List Event} :
    defaultCommand.Trace events answer ↔ events = [.askedDefault answer] := by
  constructor
  · intro h
    cases h with
    | askDefault _ h => cases h; rfl
  · rintro rfl; exact .askDefault answer (.done answer)

theorem trace_bind {p : Plan α} {f : α → Plan β} {events : List Event} {w : β} :
    (p >>= f).Trace events w ↔
      ∃ first v, p.Trace first v ∧ ∃ rest, (f v).Trace rest w ∧ events = first ++ rest := by
  constructor
  · intro h
    -- The events are cut where `p` ends; until then each step of the bind is one of `p`.
    induction p generalizing events with
    | done v => exact ⟨[], v, .done v, events, h, rfl⟩
    | probe path next ih =>
      cases h with
      | probe found h =>
        obtain ⟨first, v, hp, rest, hf, rfl⟩ := ih found h
        exact ⟨_, v, .probe found hp, rest, hf, rfl⟩
    | askDefault next ih =>
      cases h with
      | askDefault answer h =>
        obtain ⟨first, v, hp, rest, hf, rfl⟩ := ih answer h
        exact ⟨_, v, .askDefault answer hp, rest, hf, rfl⟩
    | run command next ih =>
      cases h with
      | run answer h =>
        obtain ⟨first, v, hp, rest, hf, rfl⟩ := ih answer h
        exact ⟨_, v, .run answer hp, rest, hf, rfl⟩
    | log entry next ih =>
      cases h with
      | log h =>
        obtain ⟨first, v, hp, rest, hf, rfl⟩ := ih h
        exact ⟨_, v, .log hp, rest, hf, rfl⟩
  · rintro ⟨first, v, hp, rest, hf, rfl⟩
    induction hp with
    | done v => exact hf
    | probe found _ ih => exact .probe found (ih hf)
    | askDefault answer _ ih => exact .askDefault answer (ih hf)
    | run answer _ ih => exact .run answer (ih hf)
    | log _ ih => exact .log (ih hf)

end Plan

/-! ## Executions are traces -/

/-- An answer that leaves the log alone. -/
def Answer.silenced {σ α : Type} (a : Answer σ α) : Answer σ α := { a with log := [] }

/-- The host that answers alike and writes nothing to the log. -/
def Host.silenced {σ : Type} (host : Host σ) : Host σ where
  probe path s := (host.probe path s).silenced
  defaultCommand s := (host.defaultCommand s).silenced
  run command s := (host.run command s).silenced

/-- What looks at questions alone does not see the log of an answer. -/
theorem Answer.filterMap_events {σ α γ : Type} {f : Event → Option γ}
    (hf : ∀ entry, f (.logged entry) = none) (a : Answer σ α) (question : α → Event) :
    (a.events question).filterMap f = (f (question a.value)).toList := by
  have hlog : (a.log.map Event.logged).filterMap f = [] := by
    rw [List.filterMap_map]
    exact List.filterMap_eq_nil_iff.2 fun entry _ => hf entry
  rw [Answer.events, List.filterMap_append, hlog, List.nil_append]
  cases h : f (question a.value) <;> simp [h]

namespace Plan

variable {σ α : Type} (host : Host σ)

/-- Carried out against a silenced host, a plan goes through one of its traces. -/
theorem trace_execute (p : Plan α) (s : σ) :
    p.Trace (p.execute host.silenced s).events (p.execute host.silenced s).value := by
  induction p generalizing s with
  | done v => exact .done v
  | probe path next ih => exact .probe _ (ih _ _)
  | askDefault next ih => exact .askDefault _ (ih _ _)
  | run command next ih => exact .run _ (ih _ _)
  | log entry next ih => exact .log (ih _)

theorem value_execute_silenced (p : Plan α) (s : σ) :
    (p.execute host.silenced s).value = (p.execute host s).value := by
  induction p generalizing s with
  | done v => rfl
  | probe path next ih => exact ih _ _
  | askDefault next ih => exact ih _ _
  | run command next ih => exact ih _ _
  | log entry next ih => exact ih _

theorem state_execute_silenced (p : Plan α) (s : σ) :
    (p.execute host.silenced s).state = (p.execute host s).state := by
  induction p generalizing s with
  | done v => rfl
  | probe path next ih => exact ih _ _
  | askDefault next ih => exact ih _ _
  | run command next ih => exact ih _ _
  | log entry next ih => exact ih _

theorem asked_execute_silenced {γ : Type} {f : Event → Option γ}
    (hf : ∀ entry, f (.logged entry) = none) (p : Plan α) (s : σ) :
    (p.execute host.silenced s).events.filterMap f = (p.execute host s).events.filterMap f := by
  induction p generalizing s with
  | done v => rfl
  | probe path next ih =>
    simp only [execute, Execution.prepend, List.filterMap_append, Answer.filterMap_events hf]
    exact congrArg _ (ih _ _)
  | askDefault next ih =>
    simp only [execute, Execution.prepend, List.filterMap_append, Answer.filterMap_events hf]
    exact congrArg _ (ih _ _)
  | run command next ih =>
    simp only [execute, Execution.prepend, List.filterMap_append, Answer.filterMap_events hf]
    exact congrArg _ (ih _ _)
  | log entry next ih =>
    simp only [execute, Execution.prepend, List.filterMap_append]
    rw [ih]

theorem looks_execute_silenced (p : Plan α) (s : σ) :
    (p.execute host.silenced s).looks = (p.execute host s).looks :=
  asked_execute_silenced host (fun _ => rfl) p s

theorem defaults_execute_silenced (p : Plan α) (s : σ) :
    (p.execute host.silenced s).defaults = (p.execute host s).defaults :=
  asked_execute_silenced host (fun _ => rfl) p s

end Plan

end CSharpBuild
