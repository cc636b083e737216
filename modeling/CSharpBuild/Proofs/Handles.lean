/-
Recording runners that are reached through handles, after any steps at a bench. A runner knows what
it was told through any of the handles on it and nothing else (`runner_ofSteps`), so what it records
and answers is read off these calls (`runners_record_and_answer`).

The inductions over the steps start from any bench, as handles and runners are added on the way.
That a run has no part in what comes later needs that it leaves the handles where they are
(`Alike`): then the same calls are heard after it as without it.
-/
import CSharpBuild.Proofs.Recordings

namespace CSharpBuild.Doubles.Bench

/-! ## What runners hear -/

/-- What the runner at a place is called with in a step, if the step goes through a handle on it. -/
def callAt? (b : Bench) (place : Nat) : Step → Option Call
  | .call handle call => if b.handles[handle]? = some place then some call else none
  | _ => none

/-- What the runner at a place is called with in turn, through any of the handles on it. -/
def heard (b : Bench) (place : Nat) : List Step → List Call
  | [] => []
  | step :: steps => (b.callAt? place step).toList ++ (b.apply step).heard place steps

/-- What the runner at a place was called with from the start on. -/
def told (place : Nat) (steps : List Step) : List Call := empty.heard place steps

theorem runner_length (b : Bench) : b.runner b.runners.length = .new := by
  rw [runner, List.getD_eq_getElem?_getD, List.getElem?_eq_none (Nat.le_refl _), Option.getD_none]

theorem runner_create (b : Bench) (place : Nat) : b.create.runner place = b.runner place := by
  simp only [runner, create, List.getD_eq_getElem?_getD, List.getElem?_append]
  split
  · rfl
  · next hbehind =>
    -- Where no runner was put yet, a new one is found, before and after.
    rw [List.getElem?_eq_none (Nat.le_of_not_lt hbehind)]
    cases place - b.runners.length <;> rfl

theorem runner_call {b : Bench} {handle place : Nat} (hhandle : b.handles[handle]? = some place)
    (call : Call) (other : Nat) :
    (b.call handle call).runner other =
      if place = other then (b.runner place).hear call else b.runner other := by
  have hplace : place < b.runners.length := b.wellFormed place (List.mem_of_getElem? hhandle)
  simp only [runner, Bench.call, hhandle, List.getD_eq_getElem?_getD, List.getElem?_modify]
  split
  · next hsame =>
    subst hsame
    rw [List.getElem?_eq_getElem hplace]
    rfl
  · rw [id_map']

/-- A call is heard by the runner it goes to, and by no other one. -/
theorem runner_apply (b : Bench) (step : Step) (place : Nat) :
    (b.apply step).runner place =
      (b.callAt? place step).toList.foldl RecordingRunner.hear (b.runner place) := by
  cases step with
  | create => exact b.runner_create place
  | clone handle => rfl
  | call handle call =>
    rw [apply, callAt?]
    cases hhandle : b.handles[handle]? with
    | none => simp [runner, Bench.call, hhandle]
    | some spot =>
      rw [runner_call hhandle]
      by_cases hsame : spot = place <;> simp [hsame]

theorem runner_foldl_apply (steps : List Step) (b : Bench) (place : Nat) :
    (steps.foldl apply b).runner place =
      (b.heard place steps).foldl RecordingRunner.hear (b.runner place) := by
  induction steps generalizing b with
  | nil => rfl
  | cons step steps ih => rw [List.foldl_cons, ih, runner_apply, heard, List.foldl_append]

/-- **A runner is what the calls through the handles on it make of a new one.** -/
theorem runner_ofSteps (steps : List Step) (place : Nat) :
    (ofSteps steps).runner place = RecordingRunner.ofCalls (told place steps) :=
  runner_foldl_apply steps empty place

theorem calls_runner_ofSteps (steps : List Step) (place : Nat) :
    ((ofSteps steps).runner place).calls = recorded (told place steps) := by
  rw [runner_ofSteps, RecordingRunner.calls_ofCalls]

theorem ofSteps_append (steps later : List Step) :
    ofSteps (steps ++ later) = later.foldl apply (ofSteps steps) :=
  List.foldl_append

theorem heard_append (b : Bench) (place : Nat) (steps later : List Step) :
    b.heard place (steps ++ later) =
      b.heard place steps ++ (steps.foldl apply b).heard place later := by
  induction steps generalizing b with
  | nil => rfl
  | cons step steps ih =>
    rw [List.cons_append, heard, ih, heard, List.foldl_cons, List.append_assoc]

theorem told_append (place : Nat) (steps later : List Step) :
    told place (steps ++ later) = told place steps ++ (ofSteps steps).heard place later :=
  heard_append empty place steps later

/-- Calls through a handle on the runner at a place are all heard there. -/
theorem heard_map_call {handle place : Nat} {b : Bench}
    (hhandle : b.handles[handle]? = some place) (calls : List Call) :
    b.heard place (calls.map (.call handle)) = calls := by
  induction calls generalizing b with
  | nil => rfl
  | cons call calls ih =>
    have hlater : (b.call handle call).heard place (calls.map (.call handle)) = calls :=
      ih hhandle
    rw [List.map_cons, heard, apply, hlater, callAt?, if_pos hhandle]
    rfl

/-! ## Benches that differ in what their runners know -/

/-- The benches have the same handles, on the same places. -/
structure Alike (b b' : Bench) : Prop where
  handles : b.handles = b'.handles
  length : b.runners.length = b'.runners.length

theorem length_runners_call (b : Bench) (handle : Nat) (call : Call) :
    (b.call handle call).runners.length = b.runners.length := by
  simp only [Bench.call]
  split
  · exact List.length_modify ..
  · rfl

theorem alike_call (b : Bench) (handle : Nat) (call : Call) : (b.call handle call).Alike b :=
  ⟨rfl, b.length_runners_call handle call⟩

namespace Alike

variable {b b' : Bench}

theorem apply (h : b.Alike b') (step : Step) : (b.apply step).Alike (b'.apply step) := by
  cases step with
  | create =>
    refine ⟨?_, ?_⟩
    · simp only [Bench.apply, create, h.handles, h.length]
    · simp only [Bench.apply, create, List.length_append, h.length]
  | clone handle => exact ⟨by simp only [Bench.apply, clone, h.handles], h.length⟩
  | call handle call => exact ⟨h.handles, by simp only [Bench.apply, length_runners_call, h.length]⟩

theorem foldl_apply (h : b.Alike b') (steps : List Step) :
    (steps.foldl Bench.apply b).Alike (steps.foldl Bench.apply b') := by
  induction steps generalizing b b' with
  | nil => exact h
  | cons step steps ih => exact ih (h.apply step)

theorem heard (h : b.Alike b') (place : Nat) (steps : List Step) :
    b.heard place steps = b'.heard place steps := by
  induction steps generalizing b b' with
  | nil => rfl
  | cons step steps ih =>
    have hstep : b.callAt? place step = b'.callAt? place step := by
      cases step <;> simp only [callAt?, h.handles]
    rw [Bench.heard, Bench.heard, hstep, ih (h.apply step)]

end Alike

/-! ## Runs -/

section Run

variable {steps : List Step} {handle place : Nat}
  (hhandle : (ofSteps steps).handles[handle]? = some place) (command : Command) (later : List Step)
include hhandle

theorem told_run :
    told place (steps ++ .call handle (.run command) :: later) =
      told place steps ++ .run command :: (ofSteps steps).heard place later := by
  -- What is heard later hangs on the handles alone, and the run leaves them where they are.
  rw [told_append, heard, callAt?, if_pos hhandle, apply, (alike_call ..).heard]
  rfl

theorem told_run_of_ne {other : Nat} (hother : other ≠ place) :
    told other (steps ++ .call handle (.run command) :: later) = told other (steps ++ later) := by
  have hnot : (ofSteps steps).handles[handle]? ≠ some other := by
    rw [hhandle]
    exact fun h => hother (Option.some.inj h).symm
  rw [told_append, told_append, heard, callAt?, if_neg hnot, apply, (alike_call ..).heard]
  rfl

/-- A run leaves its line in the record of the runner that it goes to and changes nothing else. So
it stays, whatever is done later. -/
theorem ofSteps_run :
    let asked := ofSteps (steps ++ .call handle (.run command) :: later)
    let unasked := ofSteps (steps ++ later)
    asked.handles = unasked.handles ∧ (∀ other ≠ place, asked.runner other = unasked.runner other) ∧
      ∃ rest, (unasked.runner place).calls = recorded (told place steps) ++ rest ∧
        asked.runner place = { unasked.runner place with
          calls := recorded (told place steps) ++ command.line :: rest } := by
  intro asked unasked
  refine ⟨?_, fun other hother => ?_, recorded ((ofSteps steps).heard place later), ?_, ?_⟩
  · have halike := (alike_call (ofSteps steps) handle (.run command)).foldl_apply later
    simp only [asked, unasked, ofSteps_append]
    exact halike.handles
  · rw [runner_ofSteps, runner_ofSteps, told_run_of_ne hhandle command later hother]
  · rw [calls_runner_ofSteps, told_append, recorded_append]
  · rw [runner_ofSteps, runner_ofSteps, told_run hhandle, told_append,
      RecordingRunner.ofCalls_run]

/-- Every answer is as if the run had not been. -/
theorem answer?_ofSteps_run (other : Nat) (question : Command) :
    (ofSteps (steps ++ .call handle (.run command) :: later)).answer? other question =
      (ofSteps (steps ++ later)).answer? other question := by
  obtain ⟨hhandles, hothers, rest, -, hplace⟩ := ofSteps_run hhandle command later
  rw [answer?, answer?, hhandles]
  congr 1
  funext spot
  by_cases hspot : spot = place
  · rw [hspot, hplace]
    exact RecordingRunner.answer_withCalls ..
  · rw [hothers spot hspot]

end Run

/-- What a plan leaves of a runner is what calls through a handle on it leave, a run for each
command of the plan. -/
theorem state_execute_runner {steps : List Step} {handle place : Nat}
    (hhandle : (ofSteps steps).handles[handle]? = some place) {α : Type} (files : FileTree)
    (default : Except Failure Command) (p : Plan α) :
    let x := p.execute (RecordingRunner.host files default) ((ofSteps steps).runner place)
    x.state = (ofSteps
      (steps ++ x.commands.map fun command => .call handle (.run command))).runner place := by
  intro x
  have hmap : (x.commands.map fun command => Step.call handle (.run command)) =
      (x.commands.map Call.run).map (.call handle) :=
    List.map_map.symm
  rw [runner_ofSteps, hmap, told_append, heard_map_call hhandle, RecordingRunner.ofCalls,
    List.foldl_append, ← RecordingRunner.ofCalls, ← runner_ofSteps]
  exact RecordingRunner.state_execute_host files default p _

/-- **What a recording runner records and answers.** Through each handle on it one reads the lines
of all commands it was asked to run, in order, whatever it answered. It answers a command in the one
way that the calls through all its handles determine, and the command fails to start exactly if the
runner was told to refuse. A run leaves its line in the record and changes nothing else, then or
later, so no other answer depends on it. A clone is on the same runner, and a new runner is apart
from all others. A plan that runs with the runner does to it what its runs would do through a
handle, and each command is answered as it would be there. -/
theorem runners_record_and_answer (steps : List Step) {handle place : Nat}
    (hhandle : (ofSteps steps).handles[handle]? = some place) :
    let b := ofSteps steps
    let calls := told place steps
    b.calls? handle = some (recorded calls) ∧
    (∀ command, ∃ answer, b.answer? handle command = some answer ∧
      (∀ other, Answers calls command other ↔ other = answer) ∧
      (answer = .error ("failed to spawn `" ++ command.program.text ++ "`") ↔ .refuse ∈ calls)) ∧
    (∀ command later,
      let asked := ofSteps (steps ++ .call handle (.run command) :: later)
      let unasked := ofSteps (steps ++ later)
      (∀ other question, asked.answer? other question = unasked.answer? other question) ∧
      asked.handles = unasked.handles ∧
      (∀ other ≠ place, asked.runner other = unasked.runner other) ∧
      ∃ rest, (unasked.runner place).calls = recorded calls ++ rest ∧
        asked.runner place =
          { unasked.runner place with calls := recorded calls ++ command.line :: rest }) ∧
    (ofSteps (steps ++ [.clone handle])).handles = b.handles ++ [place] ∧
    (∃ fresh ∉ b.handles, (ofSteps (steps ++ [.create])).handles = b.handles ++ [fresh] ∧
      (ofSteps (steps ++ [.create])).runner fresh = .new) ∧
    ∀ (α : Type) (files : FileTree) (default : Except Failure Command) (p : Plan α),
      let x := p.execute (RecordingRunner.host files default) (b.runner place)
      x.state = (ofSteps
        (steps ++ x.commands.map fun command => .call handle (.run command))).runner place ∧
      ∀ command answer, .ran command answer ∈ x.events → Answers calls command answer := by
  intro b calls
  have hrunner : b.runner place = RecordingRunner.ofCalls calls := runner_ofSteps steps place
  refine ⟨?_, fun command => ⟨(b.runner place).answer command, ?_, fun other => ?_, ?_⟩,
    fun command later => ⟨answer?_ofSteps_run hhandle command later,
      ofSteps_run hhandle command later⟩, ?_, ⟨b.runners.length, fun hmem => ?_, ?_, ?_⟩,
    fun α files default p => ⟨state_execute_runner hhandle files default p, ?_⟩⟩
  · rw [calls?, hhandle, Option.map_some, calls_runner_ofSteps]
  · rw [answer?, hhandle]
    rfl
  · rw [hrunner, answers_iff]
  · rw [hrunner, ← answers_failed_iff, answers_iff, eq_comm]
  · rw [ofSteps_append]
    show b.handles ++ b.handles[handle]?.toList = b.handles ++ [place]
    rw [hhandle, Option.toList_some]
  · exact Nat.lt_irrefl _ (b.wellFormed _ hmem)
  · rw [ofSteps_append]
    rfl
  · rw [ofSteps_append]
    exact (b.runner_create _).trans b.runner_length
  · intro command answer hran
    rw [answers_iff, ← hrunner]
    exact RecordingRunner.answer_of_mem_events files default hran

/-- A runner with three handles, which answers from what it was told through two of them, and one
that refuses; a run that fails is recorded by either. -/
theorem runners_record_and_answer_through_clones :
    let version : Command := ⟨⟨"mcs"⟩, ["-version"], none⟩
    let build : Command := ⟨⟨"/mono/bin/mono"⟩, ["mcs.exe", "-out:Lib.dll"], none⟩
    let prints (text : String) : Output := ⟨some 0, text, ""⟩
    let steps : List Step := [.create, .call 0 (.run version), .clone 0, .create,
      .call 1 (.expect (.containing "mcs") (prints "any")), .call 2 .refuse, .call 2 (.run build),
      .call 0 (.expect (.exactly "mcs -version") (prints "one")),
      .call 1 (.setDefault (prints "early")), .clone 1, .call 0 (.setDefault (prints "late")),
      .call 3 (.run build)]
    let b := ofSteps steps
    b.handles = [0, 0, 1, 0] ∧
    b.calls? 3 = some ["mcs -version", "/mono/bin/mono mcs.exe -out:Lib.dll"] ∧
    b.calls? 2 = some ["/mono/bin/mono mcs.exe -out:Lib.dll"] ∧
    b.answer? 3 version = some (.ok (prints "any")) ∧
    b.answer? 3 ⟨⟨"csc"⟩, [], none⟩ = some (.ok (prints "late")) ∧
    b.answer? 2 version = some (.error "failed to spawn `mcs`") ∧
    (ofSteps [.create]).answer? 0 version = some (.error "unexpected command: mcs -version") := by
  intro version build prints steps b
  have hanswer {steps : List Step} {handle place : Nat}
      (hhandle : (ofSteps steps).handles[handle]? = some place) {command : Command}
      {answer : Except String Output} (h : Answers (told place steps) command answer) :
      (ofSteps steps).answer? handle command = some answer := by
    obtain ⟨given, hgiven, honly, -⟩ := (runners_record_and_answer steps hhandle).2.1 command
    rw [hgiven, (honly answer).1 h]
  have hshared : b.handles[3]? = some 0 := rfl
  have hother : b.handles[2]? = some 1 := rfl
  have hfresh : (ofSteps [.create]).handles[0]? = some 0 := rfl
  have htold : told 0 steps = [.run version, .expect (.containing "mcs") (prints "any"),
      .expect (.exactly "mcs -version") (prints "one"), .setDefault (prints "early"),
      .setDefault (prints "late"), .run build] := rfl
  refine ⟨rfl, ?_, ?_, hanswer hshared ?_, hanswer hshared ?_, hanswer hother ?_,
    hanswer hfresh ?_⟩
  · rw [(runners_record_and_answer steps hshared).1, htold]
    decide
  · rw [(runners_record_and_answer steps hother).1]
    decide
  · exact @Answers.expected _ _ [.run version] (.containing "mcs") _ _ (by decide) htold
      (Pattern.fits_iff.1 (by decide)) (not_expected_iff.2 (by decide))
  · exact @Answers.default _ _ [.run version, .expect (.containing "mcs") (prints "any"),
      .expect (.exactly "mcs -version") (prints "one"), .setDefault (prints "early")] _ _
      (by decide) (not_expected_iff.2 (by decide)) htold
      (by rintro _ (_ | ⟨_, ⟨⟩⟩))
  · exact .refused (by decide)
  · exact .unexpected (by decide) (not_expected_iff.2 (by decide)) (by rintro _ ⟨⟩)

end CSharpBuild.Doubles.Bench
