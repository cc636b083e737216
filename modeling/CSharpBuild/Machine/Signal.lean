/-
Signals: their numbers, their names, what is said of a program that one of them has ended, and what
a program that does not care does about each.
-/
namespace CSharpBuild.Machine.Signal

/-- The names of the signals, by number from one on, and the words for each. -/
def table : List (String × String) :=
  [("HUP", "Hangup"), ("INT", "Interrupt"), ("QUIT", "Quit"), ("ILL", "Illegal instruction"),
    ("TRAP", "Trace/breakpoint trap"), ("ABRT", "Aborted"), ("BUS", "Bus error"),
    ("FPE", "Floating point exception"), ("KILL", "Killed"), ("USR1", "User defined signal 1"),
    ("SEGV", "Segmentation fault"), ("USR2", "User defined signal 2"), ("PIPE", "Broken pipe"),
    ("ALRM", "Alarm clock"), ("TERM", "Terminated"), ("16", "Stack fault"),
    ("CHLD", "Child exited"), ("CONT", "Continued"), ("STOP", "Stopped (signal)"),
    ("TSTP", "Stopped"), ("TTIN", "Stopped (tty input)"), ("TTOU", "Stopped (tty output)"),
    ("URG", "Urgent I/O condition"), ("XCPU", "CPU time limit exceeded"),
    ("XFSZ", "File size limit exceeded"), ("VTALRM", "Virtual timer expired"),
    ("PROF", "Profiling timer expired"), ("WINCH", "Window changed"), ("IO", "I/O possible"),
    ("PWR", "Power failure"), ("SYS", "Bad system call")]

/-- The names of the signals that have no number of their own everywhere. -/
def realTime : List String :=
  ["32", "33", "RTMIN"] ++ (List.range 15).map (fun n => "RTMIN+" ++ toString (n + 1))
    ++ (List.range 14).map (fun n => "RTMAX-" ++ toString (14 - n)) ++ ["RTMAX"]

/-- All names, by number from one on. -/
def names : List String := table.map Prod.fst ++ realTime

/-- The name of a signal. Zero stands for the end of a shell. -/
def name? (number : Nat) : Option String :=
  match number with
  | 0 => some "EXIT"
  | number + 1 => names[number]?

/-- The signal that a number or a name stands for. Names are known from `least` on. -/
def ofText? (least : Nat) (text : String) : Option Nat :=
  let digits := text.toList
  if digits ≠ [] ∧ digits.all Char.isDigit then text.toNat?.filter (· < 65)
  else if least = 0 ∧ text.toUpper = "EXIT" then some 0
  else (names.findIdx? (· = text.toUpper)).map (· + 1)

/-- What is said of a program that a signal has ended: nothing about an interrupt or a broken pipe.
-/
def notice? (number : Nat) : Option String :=
  if number = 2 ∨ number = 13 then none
  else
    match number with
    | 0 => none
    | index + 1 =>
      match table[index]? with
      | some (_, words) => some words
      | none =>
        some (if index < 33 then "Unknown signal " ++ toString number
          else "Real-time signal " ++ toString (index - 33))

/-- Whether a signal passes by a program that does not care. -/
def passes (number : Nat) : Bool := [0, 17, 18, 19, 20, 21, 22, 23, 28].contains number

end CSharpBuild.Machine.Signal
