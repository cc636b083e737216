/-
Hosts: who answers a plan. A host has a state of any kind, which each of its answers may change, and
may write to the log while it answers.

`Plan.execute` carries a plan out against a host. It delivers the value, the state the host is left
in and the events in order: the probes with their answers, the commands that were run and every log
entry. `execute_bind` composes executions.
-/
import CSharpBuild.Plan

namespace CSharpBuild

/-- An answer of a host: the value, what it wrote to the log and the state it is left in. -/
structure Answer (σ α : Type) where
  value : α
  log : List LogEntry
  state : σ

/-- A host with states in `σ`. -/
structure Host (σ : Type) where
  probe : Path → σ → Answer σ Bool
  defaultCommand : σ → Answer σ (Except Failure Command)
  run : Command → σ → Answer σ (Except String Output)

/-- One thing that happened between a plan and its host. -/
inductive Event where
  | logged (entry : LogEntry)
  | probed (path : Path) (found : Bool)
  | askedDefault (answer : Except Failure Command)
  | ran (command : Command) (answer : Except String Output)

namespace Event

/-- The log entry of an event. -/
def entry? : Event → Option LogEntry
  | .logged entry => some entry
  | _ => none

/-- The path an event looked at. -/
def probedPath? : Event → Option Path
  | .probed path _ => some path
  | _ => none

/-- The command an event ran. -/
def ranCommand? : Event → Option Command
  | .ran command _ => some command
  | _ => none

end Event

/-- A plan carried out: its value, everything that happened and the state the host is left in. -/
structure Execution (σ α : Type) where
  value : α
  events : List Event
  state : σ

namespace Execution

/-- Put events in front of an execution. -/
def prepend {σ α : Type} (events : List Event) (x : Execution σ α) : Execution σ α :=
  { x with events := events ++ x.events }

/-- The log entries of an execution. -/
def entries {σ α : Type} (x : Execution σ α) : List LogEntry := x.events.filterMap Event.entry?

/-- The paths an execution looked at. -/
def probes {σ α : Type} (x : Execution σ α) : List Path := x.events.filterMap Event.probedPath?

/-- The commands an execution ran. -/
def commands {σ α : Type} (x : Execution σ α) : List Command :=
  x.events.filterMap Event.ranCommand?

end Execution

/-- The events of one answer: what the host logged, then the question it answered. -/
def Answer.events {σ α : Type} (a : Answer σ α) (question : α → Event) : List Event :=
  a.log.map Event.logged ++ [question a.value]

/-- Carry a plan out against a host. -/
def Plan.execute {σ α : Type} (host : Host σ) : Plan α → σ → Execution σ α
  | .done value, s => ⟨value, [], s⟩
  | .probe path next, s =>
    let a := host.probe path s
    ((next a.value).execute host a.state).prepend (a.events (.probed path))
  | .askDefault next, s =>
    let a := host.defaultCommand s
    ((next a.value).execute host a.state).prepend (a.events .askedDefault)
  | .run command next, s =>
    let a := host.run command s
    ((next a.value).execute host a.state).prepend (a.events (.ran command))
  | .log entry next, s => (next.execute host s).prepend [.logged entry]

namespace Plan

theorem execute_bind {σ α β : Type} (host : Host σ) (p : Plan α) (f : α → Plan β) (s : σ) :
    (p >>= f).execute host s =
      ((f (p.execute host s).value).execute host (p.execute host s).state).prepend
        (p.execute host s).events := by
  induction p generalizing s with
  | done value => simp [execute, Execution.prepend]
  | probe path next ih => simp [execute, ih, Execution.prepend, List.append_assoc]
  | askDefault next ih => simp [execute, ih, Execution.prepend, List.append_assoc]
  | run command next ih => simp [execute, ih, Execution.prepend, List.append_assoc]
  | log entry next ih => simp [execute, ih, Execution.prepend]

end Plan

end CSharpBuild
