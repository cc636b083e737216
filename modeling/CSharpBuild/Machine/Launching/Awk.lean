/-
The program that takes records apart as it is called: options, the program text or files with it, and
operands that are files or assignments. What the program wants commands for is done between its
runs, each of which knows one answer more.
-/
import CSharpBuild.Machine.Launching
import CSharpBuild.Machine.Launching.Awk.Evaluation
import CSharpBuild.Machine.Launching.Awk.Reader

namespace CSharpBuild.Machine.Launching

namespace Awk

/-- How the program is used. -/
def usage : String := "Usage: mawk [Options] [Program] [file ...]

Program:
    The -f option value is the name of a file containing program text.
    If no -f option is given, a \"--\" ends option processing; the following
    parameters are the program text.

Options:
    -f program-file  Program  text is read from file instead of from the
                     command-line.  Multiple -f options are accepted.
    -F value         sets the field separator, FS, to value.
    -v var=value     assigns value to program variable var.
    --               unambiguous end of options.

    Implementation-specific options are prefixed with \"-W\".  They can be
    abbreviated:

    -W version       show version information and exit.
    -W compat        pre-POSIX 2001.
    -W dump          show assembler-like listing of program and exit.
    -W help          show this message and exit.
    -W interactive   set unbuffered output, line-buffered input.
    -W exec file     use file as program as well as last option.
    -W posix         stricter POSIX checking.
    -W random=number set initial random seed.
    -W sprintf=number adjust size of sprintf buffer.
    -W usage         show this message and exit.
"

/-- What the options say. -/
structure Settings where
  /-- Variables with their values, in order. -/
  assignments : List (String × Value)
  files : List String
  /-- Warnings about options. -/
  warnings : List String
  operands : List String
  /-- Whether options were ended by a word of their own. -/
  isEnded : Bool

/-- Why a program is not run: a message, or help that was asked for. -/
inductive Unrun where
  | misuse (text : String)
  | help

/-- Read the options. Each takes an argument, which bounds `fuel`. -/
def settings : Nat → List String → Settings → Except Unrun Settings
  | 0, args, s => .ok { s with operands := args }
  | _ + 1, [], s => .ok s
  | fuel + 1, arg :: rest, s =>
    let valued (letter : Char) (attached : List Char)
        (use : String → Except Unrun Settings) : Except Unrun Settings :=
      match attached, rest with
      | [], value :: rest => do settings fuel rest (← use value)
      | [], [] => .error (.misuse ("option -" ++ String.singleton letter ++ " lacks argument"))
      | attached, rest => do settings fuel rest (← use (String.ofList attached))
    match arg.toList with
    | ['-', '-'] => .ok { s with operands := rest, isEnded := true }
    | '-' :: 'f' :: attached =>
      valued 'f' attached fun value => .ok { s with files := s.files ++ [value] }
    | '-' :: 'F' :: attached =>
      if arg = "-F" && rest.head? = some "" then
        settings fuel rest.tail { s with assignments := s.assignments ++ [("FS", .text "")] }
      else
        valued 'F' attached fun value =>
          let separator := String.ofList (Pattern.unescaped value.toList)
          .ok { s with assignments := s.assignments ++ [("FS", .text separator)] }
    | '-' :: 'v' :: attached =>
      valued 'v' attached fun value =>
        match assignment? value with
        | some (name, text) => .ok { s with assignments := s.assignments ++ [(name, .outer text)] }
        | none => .error (.misuse ("improper assignment: -v " ++ value))
    | '-' :: 'W' :: attached =>
      valued 'W' attached fun value =>
        if ["help", "usage", "version"].any fun word => value.toList.isPrefixOf word.toList then
          .error .help
        else .ok { s with warnings := s.warnings ++ ["vacuous option: -W \"" ++ value ++ "\""] }
    | '-' :: _ :: _ =>
      if arg = "--help" || arg = "--usage" || arg = "--version" then .error .help
      else .error (.misuse ("not an option: " ++ arg))
    | _ => .ok { s with operands := arg :: rest }

/-- The start of a program. -/
def start (c : Machine.Call) (s : Settings) (operands : List String) (input : List Char) : Session :=
  let arguments := Table.ofList []
  let arguments := (c.name :: operands).zipIdx.foldl (fun (t : Table) (argument, i) =>
    t.put ⟨toString i, true⟩ (.outer argument)) arguments
  let environment := c.environment.foldl (fun (t : Table) (name, value) =>
    t.put ⟨name, false⟩ (.outer value)) .empty
  let number (name : String) (n : Float) : String × Value := (name, .number n)
  let shared : List (String × Value) :=
    [number "NR" 0, number "FNR" 0, number "RSTART" 0, number "RLENGTH" (-1),
      number "ARGC" (operands.length + 1).toFloat, ("FS", .text " "), ("OFS", .text " "),
      ("ORS", .text "\n"), ("RS", .text "\n"), ("SUBSEP", .text "\x1c"), ("CONVFMT", .text "%.6g"),
      ("OFMT", .text "%.6g")]
  { name := c.name, cwd := c.cwd, disk := c.disk, answers := []
    shared := Std.HashMap.ofList (shared ++ s.assignments)
    arrays := Std.HashMap.ofList [("ARGV", 0), ("ENVIRON", 1)], tables := #[arguments, environment]
    frame := #[], depth := 0, record := "", fields := #[], isSplit := true, isJoined := true
    main := .unopened, operand := 1, hadFile := false, input := input, tookInput := false
    sources := [], sinks := [], held := [], written := [], patterns := {}, ranges := [], status := 0
    seed := .number 0, chance := 1 }

/-- A run of a program. -/
abbrev Outcome := Except Stopped Unit × Session

/-- Run a program with the answers that there are. -/
def attempt (p : Program) (s : Session) (answers : List Answer) : Outcome :=
  run p { s with answers := answers }

/-- The status of a command for the program that runs it. -/
def answerStatus : Ending → Nat
  | .exited status => status
  | .killed signal => 256 + signal

/-- The course of a program from a run of it on, of which so many texts have been written already.
Each answer takes a step, so `fuel` bounds their number. -/
def course (p : Program) (s : Session) : Nat → List Answer → Nat → Outcome → Course
  | 0, _, _, _ => .done 2
  | fuel + 1, answers, count, (result, after) =>
    let fresh := (after.written.reverse).drop count
    .leave after.disk (.writeAll fresh (match result with
      | .error (.asks r) =>
        .exchange [r.shell, "-c", r.command] r.given r.captures fun ending output disk =>
          let answers := answers ++ [⟨answerStatus ending, output, disk⟩]
          course p s fuel answers after.written.length (attempt p s answers)
      | .error .failed => .done 2
      | _ => .done after.status))

/-- How many commands a program may run. -/
def answerLimit : Nat := 100000

/-- Complain and do nothing. -/
def refused (c : Machine.Call) (texts : List String) : Launching :=
  .ofEffect c (texts.foldl (fun e text => e.complain c.name 2 text)
    { Effect.nothing c with status := 2 })

/-- Read files with program text. -/
def programTexts (c : Machine.Call) (files : List String) : Except String (List (String × String)) :=
  files.mapM fun file =>
    if isInput file then .ok (file ++ ": ", String.ofList c.input)
    else
      match c.disk.read c.cwd file with
      | .ok content => .ok (file ++ ": ", content)
      | .error trouble => .error ("cannot open \"" ++ file ++ "\" (" ++ trouble.words ++ ")")

end Awk

/-- The program that takes records apart. -/
def awk (c : Machine.Call) : Launching :=
  match Awk.settings (c.args.length + 1) c.args ⟨[], [], [], [], false⟩ with
  | .error (.misuse text) => Awk.refused c [text]
  | .error .help => .ofEffect c { Effect.nothing c with written := [(2, Awk.usage)] }
  | .ok s =>
    let texts? : Except String (List (String × String) × List String) :=
      if s.files.isEmpty then .ok (s.operands.head?.toList.map (("", ·)), s.operands.tail)
      else (Awk.programTexts c s.files).map fun texts => (texts, s.operands)
    match texts? with
    | .error text => Awk.refused c [text]
    | .ok ([], _) =>
      if s.isEnded then .ofEffect c (Effect.nothing c)
      else .ofEffect c { Effect.nothing c with written := [(2, Awk.usage)] }
    | .ok (texts, operands) =>
      match Awk.Reader.read texts (s.assignments.map Prod.fst) with
      | .error faults => Awk.refused c faults
      | .ok p =>
        let readsText := s.files.any Awk.isInput
        let start := Awk.start c s operands (if readsText then [] else c.input)
        let first := Awk.attempt p start []
        let mayRead := (p.rules ≠ [] || p.last ≠ []) && operands.isEmpty &&
          first.1 matches .error (.asks _)
        let taken := if first.2.tookInput || readsText || mayRead then c.input.length else 0
        let warnings := s.warnings.map fun text => (2, c.name ++ ": " ++ text ++ "\n")
        ⟨.writeAll warnings (Awk.course p start Awk.answerLimit [] 0 first), taken, c.environment,
          c.cwd, c.disk, false, true, none⟩

end CSharpBuild.Machine.Launching
