/-
Programs that run one command in some other way: with another environment, for a limited time, or
just as it is.
-/
import CSharpBuild.Machine.Launching
import CSharpBuild.Machine.Signal
import CSharpBuild.Machine.Tool.Words

namespace CSharpBuild.Machine.Launching

open Tool

/-- A complaint of a program, with the reason why a command did not start. -/
def complaint (c : Call) (text : String) (refusal : Refusal) : String :=
  c.name ++ ": " ++ text ++ ": " ++ Course.reason refusal ++ "\n"

/-! ## The environment -/

/-- The words of a text, as blanks separate them outside quotes. -/
def wordsOf (text : List Char) : List String :=
  let step (state : List String × Option (List Char) × Option Char) (c : Char) :
      List String × Option (List Char) × Option Char :=
    let (words, word, quote) := state
    match quote with
    | some q => if c = q then (words, word, none) else (words, some (c :: word.getD []), quote)
    | none =>
      if c = '\'' || c = '"' then (words, some (word.getD []), some c)
      else if c = ' ' || c = '\t' || c = '\n' then
        (match word with
          | some word => (String.ofList word.reverse :: words, none, none)
          | none => (words, none, none))
      else (words, some (c :: word.getD []), none)
  let (words, word, _) := text.foldl step ([], none, none)
  ((word.map fun word => String.ofList word.reverse).toList ++ words).reverse

/-- Set a variable: over its old value, or behind all others. -/
def setVariable (environment : List (String × String)) (name value : String) :
    List (String × String) :=
  if environment.any fun v => v.1 = name then
    environment.map fun v => if v.1 = name then (name, value) else v
  else environment ++ [(name, value)]

/-- An assignment, if a text is one. -/
def assignment? (text : String) : Option (String × String) :=
  if text.contains '=' then
    let name := String.ofList (text.toList.takeWhile (· ≠ '='))
    some (name, (text.drop (name.length + 1)).toString)
  else none

/-- Put the words of an option in its place, so that they are read as arguments themselves. -/
def splitArguments : List String → List String
  | "-S" :: text :: rest => wordsOf text.toList ++ rest
  | arg :: rest =>
    match arg.toList with
    | '-' :: 'S' :: text => wordsOf text ++ rest
    | _ =>
      if Text.startsWith arg "--split-string=" then
        wordsOf (arg.toList.drop "--split-string=".length) ++ rest
      else arg :: rest
  | [] => []

/-- Run a command with another environment, or write the environment. -/
def env (c : Call) : Launching :=
  let options : Options := ⟨"iu:C:0v", [("ignore-environment", 'i'), ("unset", 'u'), ("chdir", 'C'),
    ("null", '0')], [], false⟩
  withOptions options 125 (fun a c =>
    let operands := if a.operands.head? = some "-" then a.operands.tail else a.operands
    let cleared := a.has 'i' || a.operands.head? = some "-"
    match (a.values 'u').find? fun name => name.isEmpty || name.contains '=' with
    | some name => ofEffect c (refuses 125 ("cannot unset " ++ escaped name
        ++ ": Invalid argument") c)
    | none =>
      let kept := (if cleared then [] else c.environment).filter fun v =>
        !(a.values 'u').contains v.1
      let assigned := operands.takeWhile fun text => (assignment? text).isSome
      let environment := (assigned.filterMap assignment?).foldl
        (fun environment (name, value) => setVariable environment name value) kept
      let command := operands.drop assigned.length
      let stop := itemEnd a '0'
      match a.value? 'C', command with
      | some _, [] => ofEffect c (misused 125 "must specify command with --chdir (-C)" c)
      | directory, command =>
        match directory.map fun path => (path, c.disk.directory c.cwd path) with
        | some (path, .error trouble) =>
          ofEffect c (refuses 125 ("cannot change directory to " ++ quoted path ++ ": "
            ++ trouble.words) c)
        | place =>
          match command with
          | [] =>
            let text := String.join (environment.map fun (name, value) =>
              name ++ "=" ++ value ++ stop)
            ofEffect c ((Effect.nothing c).out text)
          | name :: _ =>
            let hint := if name.contains ' ' then
              c.name ++ ": use -[v]S to pass options in shebang lines\n" else ""
            let refused (refusal : Refusal) : String :=
              complaint c (escaped name) refusal ++ (if refusal = .missing then hint else "")
            let cwd := match place with
              | some (_, .ok place) => place
              | _ => c.cwd
            { become c command refused with environment := environment, cwd := cwd })
    { c with args := splitArguments c.args }

/-! ## Time and the rest -/

/-- Only show where to find out how a program is used. -/
def onlyHint (status : Nat) : Tool := fun c =>
  { Effect.nothing c with status := status, written := [(2, hint c ++ "\n")] }

/-- Run a command for a limited time. -/
def timeout (c : Call) : Launching :=
  let options : Options := ⟨"k:s:vpf", [("kill-after", 'k'), ("signal", 's'), ("verbose", 'v'),
    ("preserve-status", 'p'), ("foreground", 'f')], [], false⟩
  withOptions options 125 (fun a c =>
    match a.operands with
    | duration :: name :: args =>
      match interval? duration, Signal.ofText? 1 (((a.value? 's').getD "TERM")) with
      | none, _ =>
        ofEffect c (misused 125 ("invalid time interval " ++ escaped duration) c)
      | _, none =>
        ofEffect c (misused 125 (escaped ((a.value? 's').getD "") ++ ": invalid signal") c)
      | some time, some signal =>
        let overdue : Ending :=
          if signal = 9 then .killed 9
          else if a.has 'p' then .exited (128 + signal)
          else .exited 124
        { become c (name :: args)
            (complaint c ("failed to run command " ++ quoted name)) with
          replaced := false
          limit := if time = 0 then none else some (time, overdue) }
    | _ => ofEffect c (onlyHint 125 c)) c

/-- Run a command with another priority, or write the priority. -/
def nice (c : Call) : Launching :=
  withOptions ⟨"0n:", [("adjustment", 'n')], [], false⟩ 125 (fun a c =>
    match (a.value? 'n').filter fun text => text.toInt?.isNone, a.operands with
    | some text, _ => ofEffect c (refuses 125 ("invalid adjustment " ++ escaped text) c)
    | none, [] =>
      if a.given.isEmpty then ofEffect c ((Effect.nothing c).line "0")
      else ofEffect c (misused 125 "a command must be given with an adjustment" c)
    | none, name :: args => become c (name :: args) (complaint c (quoted name))) c

/-- Run a command that does not end when its terminal does. -/
def nohup (c : Call) : Launching :=
  withOptions (lettersOnly "" false) 125 (fun a c =>
    match a.operands with
    | [] => ofEffect c (misused 125 "missing operand" c)
    | name :: args =>
      become c (name :: args) (complaint c ("failed to run command " ++ quoted name))) c

/-- Run a command that keeps its output back in another way. -/
def stdbuf (c : Call) : Launching :=
  withOptions ⟨"i:o:e:", [("input", 'i'), ("output", 'o'), ("error", 'e')], [], false⟩ 125 (fun a c =>
    match a.operands with
    | [] => ofEffect c (misused 125 "missing operand" c)
    | name :: args =>
      if a.given.isEmpty then
        ofEffect c (misused 125 "you must specify a buffering mode option" c)
      else become c (name :: args) (complaint c ("failed to run command " ++ quoted name))) c

/-- Run a command in a session of its own. -/
def setsid (c : Call) : Launching :=
  withOptions ⟨"cfw", [("ctty", 'c'), ("fork", 'f'), ("wait", 'w')], [], false⟩ 1 (fun a c =>
    match a.operands with
    | [] => ofEffect c (misused 1 "no command specified" c)
    | name :: args => become c (name :: args) (complaint c ("failed to execute " ++ name))) c

end CSharpBuild.Machine.Launching
