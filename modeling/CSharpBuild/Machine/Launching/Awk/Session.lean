/-
The state of a program that takes records apart while it runs: its variables and arrays, the record,
what it reads and what it has written.

The program is run without what it runs itself. Where it needs what a command has done, it stops and
asks (`Stopped.asks`); it is then run once more from the start with one answer more. It does the
same each time, so that it comes to where it was.
-/
import CSharpBuild.Machine.Disk
import CSharpBuild.Machine.Launching.Awk.Table

namespace CSharpBuild.Machine.Launching.Awk

/-- What a program wants a command for. -/
structure Request where
  /-- The name that the shell gets for itself. -/
  shell : String
  command : String
  /-- What the command gets to read, if it does not read what the program reads. -/
  given : Option String
  /-- Whether the program reads what the command writes. -/
  captures : Bool

/-- What a command has done. -/
structure Answer where
  /-- How it ended: its status, or 256 and a signal. -/
  status : Nat
  output : String
  disk : Disk

/-- What a parameter of a function stands for. -/
inductive Slot where
  | value (value : Value)
  | table (number : Nat)
  deriving Inhabited

/-- Why a part of a program ends before its end. -/
inductive Stopped where
  | leave
  | again
  | nextRecord
  | nextFile
  | give (value : Value)
  | exit
  | failed
  | asks (request : Request)

/-- What is read record by record: what is left, and the status of the command that wrote it. -/
structure Source where
  name : String
  isCommand : Bool
  rest : List Char
  status : Nat

/-- What is written to: a file, or a command that gets it all when it is closed. -/
structure Sink where
  name : String
  isCommand : Bool
  /-- What the command is to get, the last first. -/
  pending : List String

/-- Where the records of the input come from. -/
inductive Main where
  | unopened
  | opened (rest : List Char)
  | finished
  deriving Inhabited

/-- The state of a program. -/
structure Session where
  name : String
  cwd : Place
  disk : Disk
  answers : List Answer
  shared : Std.HashMap String Value
  arrays : Std.HashMap String Nat
  tables : Array Table
  frame : Array Slot
  /-- How many parameters there are in all calls together. -/
  depth : Nat
  record : String
  fields : Array Value
  /-- Whether the fields are those of the record. -/
  isSplit : Bool
  /-- Whether the record is that of the fields. -/
  isJoined : Bool
  main : Main
  /-- The number of the next operand. -/
  operand : Nat
  /-- Whether an operand was a file. -/
  hadFile : Bool
  input : List Char
  /-- Whether the input was read. -/
  tookInput : Bool
  sources : List Source
  sinks : List Sink
  /-- What was written to the output but is still kept, the last first. -/
  held : List String
  /-- What was written, each text with its stream, the last first. -/
  written : List (Nat × String)
  patterns : Std.HashMap String Regex
  /-- The numbers of the rules whose range is open. -/
  ranges : List Nat
  status : Nat
  seed : Value
  chance : Nat

/-- A step of a program. -/
abbrev Run := ExceptT Stopped (StateM Session)

namespace Session

/-- The value of a variable that functions share. -/
def sharedValue (s : Session) (name : String) : Value := s.shared.getD name .unset

/-- The text of a variable that functions share. -/
def sharedText (s : Session) (name : String) : String :=
  match s.shared[name]? with
  | some (.text t) | some (.outer t) => t
  | some v => v.toText "%.6g"
  | none => ""

/-- A value as a text. -/
def spelled (s : Session) (v : Value) : String :=
  match v with
  | .text t | .outer t => t
  | .unset => ""
  | v => v.toText (s.sharedText "CONVFMT")

/-- Set a variable that functions share. -/
def setShared (s : Session) (name : String) (v : Value) : Session :=
  { s with shared := s.shared.insert name v }

/-- Let go of what is kept. -/
def flush (s : Session) : Session :=
  if s.held.isEmpty then s
  else { s with held := [], written := (1, String.join s.held.reverse) :: s.written }

/-- Write to the output. -/
def out (s : Session) (text : String) : Session := { s with held := text :: s.held }

/-- Complain. -/
def complain (s : Session) (text : String) : Session :=
  { s with written := (2, s.name ++ ": " ++ text ++ "\n") :: s.written, status := 2 }

/-! ## Fields -/

/-- What a text separates parts by. -/
def separatorOf (s : Session) (text : String) : Except Pattern.Fault (Separator × Session) :=
  match text.toList with
  | [] => .ok (.nothing, s)
  | [' '] => .ok (.blanks, s)
  | [c] => .ok (.char c, s)
  | _ =>
    match s.patterns[text]? with
    | some r => .ok (.regex r, s)
    | none => do
      let r ← Pattern.read text
      .ok (.regex r, { s with patterns := s.patterns.insert text r })

/-- Take the record apart. -/
def split (s : Session) : Session :=
  if s.isSplit then s
  else
    match s.separatorOf (s.sharedText "FS") with
    | .ok (separator, s) =>
      let fields := ((separator.parts s.record).map Value.outer).toArray
      { s with fields := fields, isSplit := true }
    | .error _ => { s with fields := #[.outer s.record], isSplit := true }

/-- Put the fields together. -/
def join (s : Session) : Session :=
  if s.isJoined then s
  else
    let text := (s.sharedText "OFS").intercalate (s.fields.toList.map s.spelled)
    { s with record := text, isJoined := true }

/-- Set the record. -/
def setRecord (s : Session) (text : String) : Session :=
  { s with record := text, fields := #[], isSplit := false, isJoined := true }

/-- A field, or the record. -/
def field (s : Session) (number : Nat) : Value × Session :=
  if number = 0 then
    let s := s.join
    (.outer s.record, s)
  else
    let s := s.split
    (s.fields[number - 1]?.getD .unset, s)

/-- Have so many fields. -/
def resize (s : Session) (count : Nat) : Session :=
  let s := s.split
  let fields := s.fields.extract 0 count
  { s with fields := fields ++ Array.replicate (count - fields.size) (.text ""), isJoined := false }

/-- Set a field, or the record. -/
def setField (s : Session) (number : Nat) (v : Value) : Session :=
  if number = 0 then s.setRecord (s.spelled v)
  else
    let s := s.split
    let s := if s.fields.size < number then s.resize number else s
    { s with fields := s.fields.set! (number - 1) v, isJoined := false }

/-! ## Variables -/

/-- The number of an array that functions share, which may be new. -/
def sharedTable (s : Session) (name : String) : Nat × Session :=
  match s.arrays[name]? with
  | some number => (number, s)
  | none =>
    let number := s.tables.size
    (number, { s with tables := s.tables.push .empty, arrays := s.arrays.insert name number })

/-- The number of an array. -/
def table (s : Session) (name : Name) : Nat × Session :=
  match name with
  | .shared name => s.sharedTable name
  | .parameter number =>
    match s.frame[number]? with
    | some (.table number) => (number, s)
    | _ =>
      let n := s.tables.size
      (n, { s with tables := s.tables.push .empty, frame := s.frame.set! number (.table n) })

/-- Change an array and take something from it. -/
def withTable {α : Type} (s : Session) (name : Name) (act : Table → α × Table) : α × Session :=
  let (number, s) := s.table name
  let t := s.tables[number]?.getD .empty
  let s := { s with tables := s.tables.set! number .empty }
  let (result, t) := act t
  (result, { s with tables := s.tables.set! number t })

/-- The greatest number that is a key as a number. -/
def keyLimit : Int := 2147483647

/-- The key of an index. -/
def key (s : Session) (index : List Value) : Key :=
  match index with
  | [.number x] =>
    match Number.whole? x with
    | some n => ⟨toString n, -keyLimit ≤ n && n ≤ keyLimit⟩
    | none => ⟨s.spelled (.number x), false⟩
  | [v] => ⟨s.spelled v, false⟩
  | index => ⟨(s.sharedText "SUBSEP").intercalate (index.map s.spelled), false⟩

/-- The value of a variable. -/
def value (s : Session) (name : Name) : Value × Session :=
  match name with
  | .shared "NF" =>
    let s := s.split
    (.number s.fields.size.toFloat, s)
  | .shared name => (s.sharedValue name, s)
  | .parameter number =>
    match s.frame[number]? with
    | some (.value v) => (v, s)
    | _ => (.unset, s)

end Session

/-- Something that can be assigned to. -/
inductive Spot where
  | named (name : Name)
  | field (number : Nat)
  | element (array : Name) (key : Key)

/-! ## Steps -/

/-- Do something to the state and take something from it. -/
def act {α : Type} (f : Session → α × Session) : Run α := fun s =>
  let (result, s) := f s
  (.ok result, s)

/-- Stop. -/
def stop {α : Type} (why : Stopped) : Run α := throw why

/-- End the program because of what is wrong. -/
def fail {α : Type} (text : String) : Run α := do
  modify (Session.complain · text)
  stop .failed

/-- End the program because of what is wrong while it runs. -/
def failRunning {α : Type} (text : String) : Run α := do
  let s ← get
  let count (name : String) : String := toString (Number.toWhole (s.sharedValue name).toNumber)
  fail ("run time error: " ++ text ++ "\n\tFILENAME=\"" ++ s.sharedText "FILENAME" ++ "\" FNR="
    ++ count "FNR" ++ " NR=" ++ count "NR")

/-- A pattern that is a text. -/
def compiled (text : String) : Run Regex := do
  match (← get).patterns[text]? with
  | some r => pure r
  | none =>
    match Pattern.read text with
    | .ok r =>
      modify fun s => { s with patterns := s.patterns.insert text r }
      pure r
    | .error fault =>
      failRunning ("regular expression compile failed (" ++ fault.words ++ ")\n" ++ text)

/-- Ask for what a command does. -/
def ask (request : Request) : Run Answer := do
  modify Session.flush
  let s ← get
  match s.answers with
  | answer :: rest =>
    set { s with answers := rest, disk := answer.disk }
    pure answer
  | [] => stop (.asks request)

/-- Set a variable. -/
def setNamed (name : Name) (v : Value) : Run Unit := do
  match name with
  | .shared "NF" =>
    let count := Number.toWhole v.toNumber
    if count < 0 then failRunning "negative value assigned to NF"
    else modify fun s => s.resize count.toNat
  | .shared "FS" => modify fun s => s.split.setShared "FS" v
  | .shared name => modify fun s => s.setShared name v
  | .parameter number => modify fun s => { s with frame := s.frame.set! number (.value v) }

/-- The value at a spot. -/
def valueAt (spot : Spot) : Run Value :=
  match spot with
  | .named name => act (·.value name)
  | .field number => act (·.field number)
  | .element array key => act fun s => s.withTable array fun t =>
      match t.find? key with
      | (some v, t) => (v, t)
      | (none, t) => (.unset, t.put key .unset)

/-- Set the value at a spot. -/
def setAt (spot : Spot) (v : Value) : Run Unit :=
  match spot with
  | .named name => setNamed name v
  | .field number => modify (·.setField number v)
  | .element array key => act fun s => s.withTable array fun t => ((), t.put key v)

/-! ## Reading -/

/-- A record at the front of a text, and what is left behind it. -/
def firstRecord? (s : Session) (rest : List Char) : Option (String × List Char) × Session :=
  let upTo (rest : List Char) (c : Char) : Option (String × List Char) :=
    if rest.isEmpty then none
    else
      let taken := rest.takeWhile (· ≠ c)
      some (String.ofList taken, rest.drop (taken.length + 1))
  match (s.sharedText "RS").toList with
  | [c] => (upTo rest c, s)
  | [] =>
    let rest := rest.dropWhile (· = '\n')
    if rest.isEmpty then (none, s)
    else
      let rec paragraph : List Char → List Char × List Char
        | [] => ([], [])
        | '\n' :: '\n' :: rest => ([], rest.dropWhile (· = '\n'))
        | ['\n'] => ([], [])
        | c :: rest =>
          let (taken, left) := paragraph rest
          (c :: taken, left)
      let (taken, left) := paragraph rest
      (some (String.ofList taken, left), s)
  | separator =>
    if rest.isEmpty then (none, s)
    else
      match s.separatorOf (String.ofList separator) with
      | .ok (.regex r, s) =>
        let t := Regex.Subject.ofText false false rest
        match Regex.searchIf t r (fun start stop => start < stop) 0 with
        | some m => (some (String.ofList (t.part 0 m.start), rest.drop m.stop), s)
        | none => (some (String.ofList rest, []), s)
      | _ => (upTo rest '\n', s)

/-- Count a variable up. -/
def countUp (name : String) : Run Unit :=
  modify fun s => s.setShared name (.number ((s.sharedValue name).toNumber + 1))

/-- The name and the value of an operand that assigns. -/
def assignment? (operand : String) : Option (String × String) :=
  let name := operand.toList.takeWhile fun c => c.isAlphanum || c = '_'
  let rest := operand.toList.drop name.length
  if rest.head? = some '=' && !(name.head?.all Char.isDigit) then
    some (String.ofList name, String.ofList (Pattern.unescaped rest.tail))
  else none

/-- Whether a name is that of the input. -/
def isInput (name : String) : Bool := name = "-" || name = "/dev/stdin"

/-- Open the input. -/
def openInput : Run (List Char) :=
  act fun s => (s.input, { s with input := [], tookInput := true })

/-- What is said of what can be opened but not read. -/
def unreadable : String := "read error (" ++ Trouble.isDirectory.words ++ ")"

/-- Open what the operands name next. The numbers of operands bound `fuel`. -/
def openNext : Nat → Run Bool
  | 0 => pure false
  | fuel + 1 => do
    let s ← get
    let count := Number.toWhole (s.sharedValue "ARGC").toNumber
    if count ≤ s.operand then
      if s.hadFile then
        set { s with main := .finished }
        pure false
      else
        let text ← openInput
        modify fun s => { s.setShared "FILENAME" (.text "-") with
          main := .opened text, hadFile := true }
        pure true
    else
      let number := s.operand
      set { s with operand := number + 1 }
      let operand ← act fun s => s.withTable (.shared "ARGV") fun t =>
        match t.find? ⟨toString number, true⟩ with
        | (some v, t) => (s.spelled v, t)
        | (none, t) => ("", t)
      if operand.isEmpty then openNext fuel
      else
        match assignment? operand with
        | some (name, text) =>
          setNamed (.shared name) (.outer text)
          openNext fuel
        | none =>
          modify fun s => (s.setShared "FILENAME" (.text operand)).setShared "FNR" (.number 0)
          let text ← if isInput operand then openInput
            else
              match (← get).disk.read s.cwd operand with
              | .ok content => pure content.toList
              | .error .isDirectory => fail unreadable
              | .error trouble =>
                fail ("cannot open \"" ++ operand ++ "\" (" ++ trouble.words ++ ")")
          modify fun s => { s with main := .opened text, hadFile := true }
          pure true

/-- The next record of the input. The numbers of operands bound `fuel`. -/
def nextOfMain : Nat → Run (Option String)
  | 0 => pure none
  | fuel + 1 => do
    match (← get).main with
    | .finished => pure none
    | .unopened => if ← openNext (fuel + 1) then nextOfMain fuel else pure none
    | .opened rest =>
      match ← act (firstRecord? · rest) with
      | some (record, rest) =>
        modify fun s => { s with main := .opened rest }
        countUp "NR"
        countUp "FNR"
        pure (some record)
      | none =>
        modify fun s => { s with main := .unopened }
        if ← openNext (fuel + 1) then nextOfMain fuel else pure none

/-- The next record of the input. -/
def nextOfInput : Run (Option String) := do
  let count := Number.toWhole ((← get).sharedValue "ARGC").toNumber
  nextOfMain (count.toNat + 3)

/-- The next record of a file or of what a command writes; none at the end, and a failure if it
cannot be read. -/
def nextOfSource (isCommand : Bool) (name : String) : Run (Except Unit (Option String)) := do
  let s ← get
  let opened? : Option Source := s.sources.find? fun x => x.name = name && x.isCommand = isCommand
  let source? : Option Source ← match opened? with
    | some source => pure (some source)
    | none =>
      if isCommand then do
        let answer ← ask ⟨"/bin/sh", name, none, true⟩
        pure (some ⟨name, true, answer.output.toList, answer.status⟩)
      else if isInput name then do pure (some ⟨name, false, ← openInput, 0⟩)
      else
        match s.disk.read s.cwd name with
        | .ok content => pure (some ⟨name, false, content.toList, 0⟩)
        | .error .isDirectory => fail unreadable
        | .error _ => pure none
  match source? with
  | none => pure (.error ())
  | some source =>
    let keep (source : Source) : Run Unit := modify fun s => { s with
      sources := source :: s.sources.filter fun x =>
        x.name ≠ name || x.isCommand ≠ isCommand }
    match ← act (firstRecord? · source.rest) with
    | some (record, rest) =>
      keep { source with rest := rest }
      pure (.ok (some record))
    | none =>
      keep { source with rest := [] }
      pure (.ok none)

/-! ## Writing -/

/-- Write to where output goes. -/
def writeTo (direction : Direction) (name text : String) : Run Unit := do
  let s ← get
  let isCommand := direction = .command
  if !isCommand && name = "/dev/stdout" then modify (·.out text)
  else if !isCommand && name = "/dev/stderr" then
    modify fun s => { s with written := (2, text) :: s.written }
  else
    let opened? := s.sinks.find? fun x => x.name = name && x.isCommand = isCommand
    let sink : Sink := opened?.getD ⟨name, isCommand, []⟩
    let keep (sink : Sink) : Run Unit := modify fun s => { s with
      sinks := sink :: s.sinks.filter fun x => x.name ≠ name || x.isCommand ≠ isCommand }
    if isCommand then
      if opened?.isNone then modify Session.flush
      keep { sink with pending := text :: sink.pending }
    else
      let isNew := opened?.isNone && direction = .file
      match s.disk.update s.cwd name fun before => if isNew then text else before ++ text with
      | .ok disk =>
        keep sink
        modify fun s => { s with disk := disk }
      | .error trouble =>
        fail ("cannot open \"" ++ name ++ "\" for output (" ++ trouble.words ++ ")")

/-- Close something that is written to: its status. -/
def closeSink (sink : Sink) : Run Nat := do
  modify fun s => { s with
    sinks := s.sinks.filter fun x => x.name ≠ sink.name || x.isCommand ≠ sink.isCommand }
  if sink.isCommand then
    let answer ← ask ⟨"/bin/sh", sink.name, some (String.join sink.pending.reverse), false⟩
    pure answer.status
  else pure 0

/-- Close what is read or written under a name: its status, if there was any. -/
def close (name : String) : Run (Option Nat) := do
  let s ← get
  let sinks ← (s.sinks.filter (·.name = name)).mapM closeSink
  let sources := s.sources.filter (·.name = name)
  modify fun s => { s with sources := s.sources.filter (·.name ≠ name) }
  pure ((sinks ++ sources.map Source.status).getLast?)

/-- Close everything that is written to, the latest first. Each step closes one, so `fuel` is their
number. -/
def closeAll : Nat → Run Unit
  | 0 => pure ()
  | fuel + 1 => do
    match (← get).sinks with
    | [] => pure ()
    | sink :: _ =>
      let _ ← closeSink sink
      closeAll fuel

end CSharpBuild.Machine.Launching.Awk
