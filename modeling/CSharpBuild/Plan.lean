/-
Plans: what a computation asks of the host before it has its result, and in what order. A plan may
look whether a file is there, ask for the host's default compiler, have a command run and write to
the log; everything else in the library is plain functions.

A plan fixes nothing about the answers, so a statement about all plans of some kind covers a host
whose files come and go between two looks.
-/
import CSharpBuild.Failure
import CSharpBuild.Log

namespace CSharpBuild

/-- A computation that asks its host questions and ends with a value. -/
inductive Plan (α : Type) where
  /-- The value is known. -/
  | done (value : α)
  /-- Is there a file at `path`? -/
  | probe (path : Path) (next : Bool → Plan α)
  /-- What is the host's default compiler command? -/
  | askDefault (next : Except Failure Command → Plan α)
  /-- Run a command; the error is the text of what kept it from starting. -/
  | run (command : Command) (next : Except String Output → Plan α)
  /-- Write to the log. -/
  | log (entry : LogEntry) (next : Plan α)

namespace Plan

/-- First `p`, then what `f` makes of its value. -/
def bind {α β : Type} (f : α → Plan β) : Plan α → Plan β
  | .done value => f value
  | .probe path next => .probe path fun found => (next found).bind f
  | .askDefault next => .askDefault fun answer => (next answer).bind f
  | .run command next => .run command fun answer => (next answer).bind f
  | .log entry next => .log entry (next.bind f)

instance : Monad Plan where
  pure := .done
  bind p f := p.bind f

@[simp] theorem pure_eq {α : Type} (value : α) : (pure value : Plan α) = .done value := rfl

@[simp] theorem done_bind {α β : Type} (value : α) (f : α → Plan β) :
    (.done value : Plan α) >>= f = f value := rfl

@[simp] theorem probe_bind {α β : Type} (path : Path) (next : Bool → Plan α) (f : α → Plan β) :
    .probe path next >>= f = .probe path fun found => next found >>= f := rfl

@[simp] theorem askDefault_bind {α β : Type} (next : Except Failure Command → Plan α)
    (f : α → Plan β) : .askDefault next >>= f = .askDefault fun answer => next answer >>= f := rfl

@[simp] theorem run_bind {α β : Type} (command : Command) (next : Except String Output → Plan α)
    (f : α → Plan β) : .run command next >>= f = .run command fun answer => next answer >>= f := rfl

@[simp] theorem log_bind {α β : Type} (entry : LogEntry) (next : Plan α) (f : α → Plan β) :
    .log entry next >>= f = .log entry (next >>= f) := rfl

theorem bind_done {α : Type} (p : Plan α) : p >>= Plan.done = p := by
  induction p with
  | done value => rfl
  | probe path next ih => rw [probe_bind]; congr; funext found; exact ih found
  | askDefault next ih => rw [askDefault_bind]; congr; funext answer; exact ih answer
  | run command next ih => rw [run_bind]; congr; funext answer; exact ih answer
  | log entry next ih => rw [log_bind, ih]

theorem bind_assoc {α β γ : Type} (p : Plan α) (f : α → Plan β) (g : β → Plan γ) :
    p >>= f >>= g = p >>= fun value => f value >>= g := by
  induction p with
  | done value => rfl
  | probe path next ih => simp only [probe_bind, ih]
  | askDefault next ih => simp only [askDefault_bind, ih]
  | run command next ih => simp only [run_bind, ih]
  | log entry next ih => simp only [log_bind, ih]

instance : LawfulMonad Plan :=
  LawfulMonad.mk' Plan bind_done (fun _ _ => rfl) bind_assoc

/-- Look whether there is a file at a path. -/
def look (path : Path) : Plan Bool := .probe path .done

/-- Ask for the host's default compiler command. -/
def defaultCommand : Plan (Except Failure Command) := .askDefault .done

/-- Have a command run. -/
def launch (command : Command) : Plan (Except String Output) := .run command .done

/-- Write to the log. -/
def note (entry : LogEntry) : Plan Unit := .log entry (.done ())

end Plan

end CSharpBuild
