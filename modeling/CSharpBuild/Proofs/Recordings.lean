/-
What a recording runner knows after any calls, and what it answers. Each field of it is read off the
calls (`RecordingRunner.ofCalls_eq`). `Answers` says which answer a command gets in terms of the
calls alone; it is the one that the runner gives, and there is no other (`answers_iff`).

The induction over the calls takes them from the end, as a runner keeps the default set last.
-/
import Mathlib.Data.List.Induction
import CSharpBuild.Doubles.Bench

namespace CSharpBuild.Doubles

/-! ## What calls leave in a runner -/

namespace Call

/-- The expectation a call adds, if that is what it does. -/
def expectation? : Call → Option (Pattern × Output)
  | .expect pattern output => some (pattern, output)
  | _ => none

/-- The default a call sets, if that is what it does. -/
def default? : Call → Option Output
  | .setDefault output => some output
  | _ => none

/-- The command a call is about, if it is a run. -/
def command? : Call → Option Command
  | .run command => some command
  | _ => none

theorem expectation?_eq_some_iff {call : Call} {expectation : Pattern × Output} :
    call.expectation? = some expectation ↔ call = .expect expectation.1 expectation.2 := by
  cases call <;> simp [expectation?, Prod.ext_iff]

theorem default?_eq_some_iff {call : Call} {output : Output} :
    call.default? = some output ↔ call = .setDefault output := by
  cases call <;> simp [default?]

theorem mem_filterMap_expectation? {calls : List Call} {expectation : Pattern × Output} :
    expectation ∈ calls.filterMap expectation? ↔ .expect expectation.1 expectation.2 ∈ calls := by
  simp only [List.mem_filterMap, expectation?_eq_some_iff, exists_eq_right]

theorem filterMap_default?_eq_nil_iff {calls : List Call} :
    calls.filterMap default? = [] ↔ ∀ output, .setDefault output ∉ calls := by
  simp only [List.eq_nil_iff_forall_not_mem, List.mem_filterMap, default?_eq_some_iff,
    exists_eq_right]

end Call

/-- The record of calls: the lines of the commands that they run, in order. -/
def recorded (calls : List Call) : List String :=
  (calls.filterMap Call.command?).map Command.line

theorem recorded_append (earlier later : List Call) :
    recorded (earlier ++ later) = recorded earlier ++ recorded later := by
  rw [recorded, List.filterMap_append, List.map_append, recorded, recorded]

namespace RecordingRunner

/-- **What calls leave in each field of a runner.** -/
theorem ofCalls_eq (calls : List Call) :
    ofCalls calls = ⟨calls.filterMap Call.expectation?, recorded calls,
      (calls.filterMap Call.default?).getLast?, decide (.refuse ∈ calls)⟩ := by
  induction calls using List.reverseRecOn with
  | nil => rfl
  | append_singleton calls call ih =>
    rw [ofCalls, List.foldl_append, ← ofCalls, ih, List.foldl_cons, List.foldl_nil]
    cases call <;>
      simp [hear, expect, setDefault, refuse, run, recorded, Call.expectation?, Call.default?,
        Call.command?]

theorem calls_ofCalls (calls : List Call) : (ofCalls calls).calls = recorded calls := by
  rw [ofCalls_eq]

/-- A run leaves its line in the record and has no part in what other calls leave. -/
theorem ofCalls_run (earlier later : List Call) (command : Command) :
    ofCalls (earlier ++ .run command :: later) =
      { ofCalls (earlier ++ later) with
        calls := recorded earlier ++ command.line :: recorded later } := by
  simp [ofCalls_eq, recorded, List.filterMap_cons, Call.expectation?, Call.default?,
    Call.command?]

/-- The record has no part in an answer. -/
theorem answer_withCalls (r : RecordingRunner) (calls : List String) (command : Command) :
    ({ r with calls } : RecordingRunner).answer command = r.answer command := rfl

end RecordingRunner

/-! ## The answer to a command -/

/-- Which command lines a pattern is for: the one line, or all that have the piece somewhere. -/
def Pattern.Fits : Pattern → String → Prop
  | .exactly expected, line => line = expected
  | .containing piece, line => ∃ before after, line = before ++ piece ++ after

theorem Pattern.fits_iff {pattern : Pattern} {line : String} :
    pattern.fits line = true ↔ pattern.Fits line := by
  cases pattern with
  | exactly expected => exact decide_eq_true_iff
  | containing piece => exact Text.contains_iff

/-- Some call was to expect such a command line. -/
def Expected (calls : List Call) (line : String) : Prop :=
  ∃ pattern output, .expect pattern output ∈ calls ∧ pattern.Fits line

/-- The answer to a command after `calls`, and why it is that one. -/
inductive Answers (calls : List Call) (command : Command) : Except String Output → Prop where
  /-- The runner was told to refuse. -/
  | refused : .refuse ∈ calls →
      Answers calls command (.error ("failed to spawn `" ++ command.program.text ++ "`"))
  /-- The answer is that of the earliest expectation that fits. -/
  | expected {earlier pattern output later} : .refuse ∉ calls →
      calls = earlier ++ .expect pattern output :: later → pattern.Fits command.line →
      ¬ Expected earlier command.line → Answers calls command (.ok output)
  /-- No expectation fits, and the answer is the default set last. -/
  | default {earlier output later} : .refuse ∉ calls → ¬ Expected calls command.line →
      calls = earlier ++ .setDefault output :: later → (∀ other, .setDefault other ∉ later) →
      Answers calls command (.ok output)
  /-- No expectation fits, and there is no default. -/
  | unexpected : .refuse ∉ calls → ¬ Expected calls command.line →
      (∀ output, .setDefault output ∉ calls) →
      Answers calls command (.error ("unexpected command: " ++ command.line))

/-- Where in a list a value comes from that some of its elements yield. -/
theorem filterMap_eq_append_cons_iff {α β : Type} {f : α → Option β} {values : List α}
    {before after : List β} {y : β} :
    values.filterMap f = before ++ y :: after ↔
      ∃ earlier x later, values = earlier ++ x :: later ∧ f x = some y ∧
        earlier.filterMap f = before ∧ later.filterMap f = after := by
  constructor
  · intro h
    obtain ⟨earlier, rest, rfl, rfl, hrest⟩ := List.filterMap_eq_append_iff.1 h
    obtain ⟨skipped, x, later, rfl, hskipped, hx, rfl⟩ := List.filterMap_eq_cons_iff.1 hrest
    refine ⟨earlier ++ skipped, x, later, by simp, hx, ?_, rfl⟩
    rw [List.filterMap_append, List.filterMap_eq_nil_iff.2 hskipped, List.append_nil]
  · rintro ⟨earlier, x, later, rfl, hx, rfl, rfl⟩
    rw [List.filterMap_append, List.filterMap_cons_some hx]

theorem not_expected_iff {calls : List Call} {line : String} :
    ¬ Expected calls line ↔
      ∀ expectation ∈ calls.filterMap Call.expectation?, expectation.1.fits line = false := by
  simp only [Expected, not_exists, not_and, Call.mem_filterMap_expectation?, Prod.forall,
    ← Pattern.fits_iff, Bool.not_eq_true]

namespace RecordingRunner

variable {calls : List Call}

theorem refusing_ofCalls_iff : (ofCalls calls).refusing = true ↔ .refuse ∈ calls := by
  rw [ofCalls_eq, decide_eq_true_iff]

/-- The first expectation that fits is the one added earliest. -/
theorem find?_expectations_eq_some_iff {line : String} {pattern : Pattern} {output : Output} :
    (ofCalls calls).expectations.find? (·.1.fits line) = some (pattern, output) ↔
      ∃ earlier later, calls = earlier ++ .expect pattern output :: later ∧ pattern.Fits line ∧
        ¬ Expected earlier line := by
  simp only [ofCalls_eq, List.find?_eq_some_iff_append, not_expected_iff, Pattern.fits_iff,
    Bool.not_eq_true']
  constructor
  · rintro ⟨hfits, before, after, hsplit, hbefore⟩
    obtain ⟨earlier, call, later, rfl, hcall, rfl, -⟩ := filterMap_eq_append_cons_iff.1 hsplit
    obtain rfl := Call.expectation?_eq_some_iff.1 hcall
    exact ⟨earlier, later, rfl, hfits, hbefore⟩
  · rintro ⟨earlier, later, rfl, hfits, hbefore⟩
    exact ⟨hfits, _, _, filterMap_eq_append_cons_iff.2 ⟨earlier, _, later, rfl, rfl, rfl, rfl⟩,
      hbefore⟩

theorem find?_expectations_eq_none_iff {line : String} :
    (ofCalls calls).expectations.find? (·.1.fits line) = none ↔ ¬ Expected calls line := by
  simp only [ofCalls_eq, List.find?_eq_none, not_expected_iff, Bool.not_eq_true]

theorem default_eq_some_iff {output : Output} :
    (ofCalls calls).default = some output ↔
      ∃ earlier later, calls = earlier ++ .setDefault output :: later ∧
        ∀ other, .setDefault other ∉ later := by
  simp only [ofCalls_eq, List.getLast?_eq_some_iff]
  constructor
  · rintro ⟨before, hsplit⟩
    obtain ⟨earlier, call, later, rfl, hcall, -, hlater⟩ := filterMap_eq_append_cons_iff.1 hsplit
    obtain rfl := Call.default?_eq_some_iff.1 hcall
    exact ⟨earlier, later, rfl, Call.filterMap_default?_eq_nil_iff.1 hlater⟩
  · rintro ⟨earlier, later, rfl, hlater⟩
    exact ⟨_, filterMap_eq_append_cons_iff.2
      ⟨earlier, _, later, rfl, rfl, rfl, Call.filterMap_default?_eq_nil_iff.2 hlater⟩⟩

theorem default_eq_none_iff :
    (ofCalls calls).default = none ↔ ∀ output, .setDefault output ∉ calls := by
  rw [ofCalls_eq, List.getLast?_eq_none_iff, Call.filterMap_default?_eq_nil_iff]

end RecordingRunner

section Answer

open RecordingRunner

variable {calls : List Call} {command : Command}

/-- **A runner gives a command the answer that the calls before it determine, and no other.** -/
theorem answers_iff {answer : Except String Output} :
    Answers calls command answer ↔ answer = (ofCalls calls).answer command := by
  rw [RecordingRunner.answer]
  constructor
  · rintro (hrefuse | ⟨hrefuse, hsplit, hfits, hearlier⟩ | ⟨hrefuse, hnone, hsplit, hlater⟩ |
      ⟨hrefuse, hnone, hdefault⟩)
    · rw [if_pos (refusing_ofCalls_iff.2 hrefuse)]
    · rw [if_neg (mt refusing_ofCalls_iff.1 hrefuse),
        find?_expectations_eq_some_iff.2 ⟨_, _, hsplit, hfits, hearlier⟩]
    · rw [if_neg (mt refusing_ofCalls_iff.1 hrefuse), find?_expectations_eq_none_iff.2 hnone,
        default_eq_some_iff.2 ⟨_, _, hsplit, hlater⟩]
    · rw [if_neg (mt refusing_ofCalls_iff.1 hrefuse), find?_expectations_eq_none_iff.2 hnone,
        default_eq_none_iff.2 hdefault]
  · rintro rfl
    by_cases hrefuse : .refuse ∈ calls
    · rw [if_pos (refusing_ofCalls_iff.2 hrefuse)]
      exact .refused hrefuse
    rw [if_neg (mt refusing_ofCalls_iff.1 hrefuse)]
    cases hfind : (ofCalls calls).expectations.find? (·.1.fits command.line) with
    | some expectation =>
      obtain ⟨earlier, later, hsplit, hfits, hearlier⟩ := find?_expectations_eq_some_iff.1 hfind
      exact .expected hrefuse hsplit hfits hearlier
    | none =>
      have hnone := find?_expectations_eq_none_iff.1 hfind
      cases hdefault : (ofCalls calls).default with
      | some output =>
        obtain ⟨earlier, later, hsplit, hlater⟩ := default_eq_some_iff.1 hdefault
        exact .default hrefuse hnone hsplit hlater
      | none => exact .unexpected hrefuse hnone (default_eq_none_iff.1 hdefault)

/-- A command fails to start exactly if the runner was told to refuse. -/
theorem answers_failed_iff :
    Answers calls command (.error ("failed to spawn `" ++ command.program.text ++ "`")) ↔
      .refuse ∈ calls := by
  refine ⟨fun h => ?_, .refused⟩
  -- The cases are on the answer, which must be a variable for that.
  generalize hanswer : Except.error _ = answer at h
  cases h with
  | refused hrefuse => exact hrefuse
  | expected | default => cases hanswer
  | unexpected =>
    -- The two texts differ in their first character.
    have htexts := congrArg String.toList (Except.error.inj hanswer)
    simp at htexts

end Answer

/-! ## Plans that run with a recording runner -/

namespace RecordingRunner

variable {α : Type} (files : FileTree) (default : Except Failure Command)

/-- What a plan leaves of a runner is what its runs leave, one after the other. -/
theorem state_execute_host (p : Plan α) (r : RecordingRunner) :
    (p.execute (host files default) r).state =
      ((p.execute (host files default) r).commands.map Call.run).foldl hear r := by
  induction p generalizing r with
  | done value => rfl
  | probe path next ih => exact ih _ r
  | askDefault next ih => exact ih _ r
  | run command next ih => exact ih _ (r.run command).2
  | log entry next ih => exact ih r

/-- A plan gets each command answered as if it were the first one it runs. -/
theorem answer_of_mem_events {p : Plan α} {r : RecordingRunner} {command : Command}
    {answer : Except String Output}
    (h : .ran command answer ∈ (p.execute (host files default) r).events) :
    answer = r.answer command := by
  induction p generalizing r with
  | done value => cases h
  | probe path next ih => exact ih _ ((List.mem_cons.1 h).resolve_left nofun)
  | askDefault next ih => exact ih _ ((List.mem_cons.1 h).resolve_left nofun)
  | run first next ih =>
    rcases List.mem_cons.1 h with hfirst | hlater
    · cases hfirst
      rfl
    · -- The runner now knows one line more, which has no part in an answer.
      have hsame := ih _ hlater
      exact hsame.trans (r.answer_withCalls _ command)
  | log entry next ih => exact ih ((List.mem_cons.1 h).resolve_left nofun)

end RecordingRunner

end CSharpBuild.Doubles
