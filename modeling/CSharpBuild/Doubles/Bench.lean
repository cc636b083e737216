/-
A bench with recording runners on it, each at a place of its own. Runners are reached through
handles. A handle that is cloned is on the same runner as the one it was cloned from, so what is
told through one of them is known to all.
-/
import CSharpBuild.Doubles.RecordingRunner

namespace CSharpBuild.Doubles

/-- A call of a recording runner: it is told something or asked to run a command. -/
inductive Call where
  | expect (pattern : Pattern) (output : Output)
  | setDefault (output : Output)
  | refuse
  | run (command : Command)
  deriving DecidableEq, Repr

/-- The runner after a call. -/
def RecordingRunner.hear (r : RecordingRunner) : Call → RecordingRunner
  | .expect pattern output => r.expect pattern output
  | .setDefault output => r.setDefault output
  | .refuse => r.refuse
  | .run command => (r.run command).2

/-- The runner that calls make of a new one. -/
def RecordingRunner.ofCalls (calls : List Call) : RecordingRunner := calls.foldl hear new

/-- Runners, and for each handle the place of the runner it is on. -/
structure Bench where
  runners : List RecordingRunner
  handles : List Nat
  wellFormed : ∀ place ∈ handles, place < runners.length

namespace Bench

/-- What can be done at a bench. -/
inductive Step where
  /-- Put a new runner there, with a handle on it. -/
  | create
  /-- Make one more handle on the runner that a handle is on. -/
  | clone (handle : Nat)
  /-- Call a runner through a handle. -/
  | call (handle : Nat) (call : Call)
  deriving DecidableEq, Repr

/-- Nothing at all. -/
def empty : Bench := ⟨[], [], nofun⟩

/-- The runner at a place. -/
def runner (b : Bench) (place : Nat) : RecordingRunner := b.runners.getD place .new

/-- One more runner, behind the others, and a handle on it. -/
def create (b : Bench) : Bench where
  runners := b.runners ++ [.new]
  handles := b.handles ++ [b.runners.length]
  wellFormed := by
    intro place hplace
    rw [List.length_append, List.length_singleton]
    rcases List.mem_append.1 hplace with hold | hnew
    · exact Nat.lt_succ_of_lt (b.wellFormed place hold)
    · exact List.mem_singleton.1 hnew ▸ Nat.lt_succ_self _

/-- One more handle, on the runner that `handle` is on. -/
def clone (b : Bench) (handle : Nat) : Bench where
  runners := b.runners
  handles := b.handles ++ b.handles[handle]?.toList
  wellFormed := by
    intro place hplace
    rcases List.mem_append.1 hplace with hold | hnew
    · exact b.wellFormed place hold
    · exact b.wellFormed place (List.mem_of_getElem? (Option.mem_toList.1 hnew))

/-- Call the runner that `handle` is on. -/
def call (b : Bench) (handle : Nat) (call : Call) : Bench where
  runners := match b.handles[handle]? with
    | some place => b.runners.modify place (·.hear call)
    | none => b.runners
  handles := b.handles
  wellFormed := by
    intro place hplace
    split
    · rw [List.length_modify]
      exact b.wellFormed place hplace
    · exact b.wellFormed place hplace

/-- The bench after a step. Through a handle that there is not, nothing can be done. -/
def apply (b : Bench) : Step → Bench
  | .create => b.create
  | .clone handle => b.clone handle
  | .call handle call => b.call handle call

/-- The bench that steps make of an empty one. -/
def ofSteps (steps : List Step) : Bench := steps.foldl apply empty

/-- What the runner that `handle` is on answers to a command. -/
def answer? (b : Bench) (handle : Nat) (command : Command) : Option (Except String Output) :=
  b.handles[handle]?.map fun place => ((b.runner place).run command).1

/-- The lines that the runner that `handle` is on has recorded. -/
def calls? (b : Bench) (handle : Nat) : Option (List String) :=
  b.handles[handle]?.map fun place => (b.runner place).calls

end Bench

end CSharpBuild.Doubles
