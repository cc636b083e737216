/-
Running programs that take records apart. What an expression is assigned to is found before the value
is, and the parts of an expression are evaluated from left to right.
-/
import CSharpBuild.Machine.Launching.Awk.Session
import CSharpBuild.Text

namespace CSharpBuild.Machine.Launching.Awk

/-! ## Functions of values -/

/-- Compute something of two numbers. -/
def Operator.apply : Operator → Float → Float → Float
  | .plus, a, b => a + b
  | .minus, a, b => a - b
  | .times, a, b => a * b
  | .over, a, b => a / b
  | .rest, a, b => Number.remainder a b
  | .power, a, b => a.pow b

/-- A whole number that is meant as a place in a text; one that is far off is as good as the nearest
one that counts. -/
def placeOf (x : Float) : Int :=
  max (-2147483647) (min 2147483647 (if x.isNaN then -2147483647 else Number.toWhole x))

/-- The part of a text from a place on. A place in front of the text makes the part longer. -/
def substring (text : String) (start : Float) (length : Option Float) : String :=
  let start := placeOf start
  let length := (length.map placeOf).getD 2147483647
  let length := if start ≤ 0 then length - start else length
  String.ofList ((text.toList.drop (start - 1).toNat).take length.toNat)

/-- The place at which a text first occurs in another, counted from one; zero if it does not. -/
def indexOf (text part : String) : Nat :=
  let rec within : List Char → Nat → Nat
    | [], place => if part.isEmpty then place else 0
    | c :: rest, place =>
      if part.toList.isPrefixOf (c :: rest) then place else within rest (place + 1)
  within text.toList 1

/-- The faults of a format as a message. -/
def FormatFault.words (function format : String) : FormatFault → String
  | .missing => "not enough arguments passed to " ++ function ++ "(\"" ++ format ++ "\")"
  | .improper number =>
    "improper conversion(number " ++ toString number ++ ") in " ++ function ++ "(\"" ++ format ++ "\")"

/-- A number as one between zero and one that nothing else depends on. -/
def chanceOf (n : Nat) : Nat × Float :=
  let next := (n * 6364136223846793005 + 1442695040888963407) % Nat.pow 2 64
  (next, Float.ofNat (next / Nat.pow 2 11) / 9007199254740992.0)

/-- How many parameters all calls together may have, each call counting as one more. -/
def depthLimit : Nat := 1006

/-- Apply a function to values; `length` has had its array already. -/
def applyBuiltin (function : Builtin) (values : List Value) : Run Value := do
  let s ← get
  let text (number : Nat) : String := s.spelled (values[number]?.getD .unset)
  let number (n : Nat) : Float := (values[n]?.getD .unset).toNumber
  let computed (f : Float → Float) : Run Value := pure (.number (f (number 0)))
  match function with
  | .length =>
    if values.isEmpty then
      let record ← act (·.field 0)
      pure (.number (s.spelled record).length.toFloat)
    else pure (.number (text 0).length.toFloat)
  | .substring =>
    pure (.text (substring (text 0) (number 1) (values[2]?.map Value.toNumber)))
  | .index => pure (.number (indexOf (text 0) (text 1)).toFloat)
  | .lower => pure (.text (text 0).toLower)
  | .upper => pure (.text (text 0).toUpper)
  | .format =>
    let (written, fault) := Layout.write s.spelled (text 0) values.tail
    match fault with
    | some fault => failRunning (fault.words "sprintf" (text 0))
    | none => pure (.text written)
  | .integer =>
    computed fun x => if x.isNaN || x.isInf then x else if x < 0 then x.ceil else x.floor
  | .root => computed Float.sqrt
  | .exponential => computed Float.exp
  | .logarithm => computed Float.log
  | .sine => computed Float.sin
  | .cosine => computed Float.cos
  | .arcTangent => pure (.number (Float.atan2 (number 0) (number 1)))
  | .random =>
    let (chance, x) := chanceOf s.chance
    set { s with chance := chance }
    pure (.number x)
  | .seed =>
    let seed := (values[0]?.map fun v => Value.number v.toNumber).getD (.number 0)
    set { s with seed := seed, chance := (seed.toNumber.toBits).toNat }
    pure s.seed
  | .close =>
    match ← close (text 0) with
    | some status => pure (.number status.toFloat)
    | none => pure (.number (-1))
  | .flush =>
    modify Session.flush
    let known := values.isEmpty || text 0 = "/dev/stdout" || s.sinks.any (·.name = text 0)
    pure (.number (if known then 0 else -1))
  | .system =>
    let answer ← ask ⟨"sh", text 0, none, false⟩
    pure (.number answer.status.toFloat)
  | .time => pure (.number 0)
  | .find => pure .unset

/-- Find a match in a text, and leave where it is. -/
def findMatch (text : String) (r : Regex) : Run Value := do
  let t := Regex.Subject.ofText false false text.toList
  let (start, length) : Float × Float :=
    match Regex.search t r 0 with
    | some m => ((m.start + 1).toFloat, (m.stop - m.start).toFloat)
    | none => (0, -1)
  setNamed (.shared "RSTART") (.number start)
  setNamed (.shared "RLENGTH") (.number length)
  pure (.number start)

/-- Whether a text matches. -/
def isMatch (text : String) (r : Regex) : Bool :=
  (Regex.search (.ofText false false text.toList) r 0).isSome

/-- Take the next record, to where it goes: 1, or 0 at the end. -/
def deliver (record : Option String) (spot : Option Spot) : Run Value := do
  match record with
  | none => pure (.number 0)
  | some text =>
    match spot with
    | some spot => setAt spot (.outer text)
    | none => modify (·.setRecord text)
    pure (.number 1)

/-- Print a value as a text. -/
def printedText (s : Session) : Value → String
  | .number x => Number.toText (s.sharedText "OFMT") x
  | v => s.spelled v

/-- Run the body of a loop: whether to go on. -/
def goesOn (body : Run Unit) : Run Bool := fun s =>
  match body s with
  | (.ok _, s) | (.error .again, s) => (.ok true, s)
  | (.error .leave, s) => (.ok false, s)
  | (.error why, s) => (.error why, s)

/-- What separates the parts of a text. -/
def separatorOfText (text : String) : Run Separator := do
  match (← get).separatorOf text with
  | .ok (separator, s) =>
    set s
    pure separator
  | .error _ => .regex <$> compiled text

/-! ## Expressions and statements -/

section

variable (p : Program)

mutual

/-- Evaluate an expression. `fuel` bounds how deep expressions, calls and loops go. -/
def evaluate : Nat → Expr → Run Value
  | 0, _ => stop .failed
  | fuel + 1, e => do
    match e with
    | .number x => pure (.number x)
    | .text t => pure (.text t)
    | .pattern r =>
      let record ← act (·.field 0)
      pure (.ofBool (isMatch ((← get).spelled record) r))
    | .named n => act (·.value n)
    | .field _ | .element .. => valueAt (← spotOf fuel e)
    | .assign target operator value =>
      let spot ← spotOf fuel target
      let v ← evaluate fuel value
      let v ← match operator with
        | none => pure v
        | some operator => do
          pure (.number (operator.apply (← valueAt spot).toNumber v.toNumber))
      setAt spot v
      pure v
    | .step target up before =>
      let spot ← spotOf fuel target
      let x := (← valueAt spot).toNumber
      let y := if up then x + 1 else x - 1
      setAt spot (.number y)
      pure (.number (if before then y else x))
    | .negative value => do pure (.number (-(← evaluate fuel value).toNumber))
    | .positive value => do pure (.number (← evaluate fuel value).toNumber)
    | .opposite value => do pure (.ofBool !(← evaluate fuel value).isTrue)
    | .compute operator first second =>
      let a ← evaluate fuel first
      let b ← evaluate fuel second
      pure (.number (operator.apply a.toNumber b.toNumber))
    | .compare comparison first second =>
      let a ← evaluate fuel first
      let b ← evaluate fuel second
      pure (.ofBool (Value.holds comparison ((← get).sharedText "CONVFMT") a b))
    | .join first second =>
      let a ← evaluate fuel first
      let b ← evaluate fuel second
      let s ← get
      pure (.text (s.spelled a ++ s.spelled b))
    | .matching expected text pattern =>
      let v ← evaluate fuel text
      let r ← patternOf fuel pattern
      pure (.ofBool (isMatch ((← get).spelled v) r = expected))
    | .both first second =>
      if (← evaluate fuel first).isTrue then
        pure (.ofBool (← evaluate fuel second).isTrue)
      else pure (.ofBool false)
    | .either first second =>
      if (← evaluate fuel first).isTrue then pure (.ofBool true)
      else pure (.ofBool (← evaluate fuel second).isTrue)
    | .choose condition first second =>
      if (← evaluate fuel condition).isTrue then evaluate fuel first else evaluate fuel second
    | .isIn index array =>
      let values ← evaluateAll fuel index
      let key := (← get).key values
      act fun s => s.withTable array fun t =>
        let (found, t) := t.find? key
        (.ofBool found.isSome, t)
    | .call name arguments => call fuel name arguments
    | .builtin .length [.named n] =>
      let s ← get
      let number? : Option Nat := match n with
        | .shared name => s.arrays[name]?
        | .parameter number =>
          match s.frame[number]? with
          | some (.table t) => some t
          | _ => none
      match number?.bind fun number => s.tables[number]? with
      | some t => pure (.number t.cells.size.toFloat)
      | none => applyBuiltin .length [← act (·.value n)]
    | .builtin .find [text, pattern] =>
      let v ← evaluate fuel text
      let r ← patternOf fuel pattern
      findMatch ((← get).spelled v) r
    | .builtin function arguments => applyBuiltin function (← evaluateAll fuel arguments)
    | .split text array separator =>
      let text := (← get).spelled (← evaluate fuel text)
      let separator ← match separator with
        | none => separatorOfText ((← get).sharedText "FS")
        | some (.pattern r) => pure (.regex r)
        | some e => do
          let v ← evaluate fuel e
          separatorOfText ((← get).spelled v)
      let parts := separator.parts text
      act fun s => s.withTable array fun _ => ((), Table.ofList (parts.map .outer))
      pure (.number parts.length.toFloat)
    | .replace all pattern replacement target =>
      let r ← patternOf fuel pattern
      let pieces := Piece.read ((← get).spelled (← evaluate fuel replacement)).toList 0
      let spot ← match target with
        | some target => spotOf fuel target
        | none => pure (.field 0)
      let text := (← get).spelled (← valueAt spot)
      let t := Regex.Subject.ofText false false text.toList
      let (done, count) := replaced t r pieces all (text.length + 2) 0 none [] 0
      if count ≠ 0 then setAt spot (.text (String.ofList done.reverse.flatten))
      pure (.number count.toFloat)
    | .next target =>
      let spot ← spotOf? fuel target
      deliver (← nextOfInput) spot
    | .nextOf isCommand source target =>
      let spot ← spotOf? fuel target
      let v ← evaluate fuel source
      match ← nextOfSource isCommand ((← get).spelled v) with
      | .ok record => deliver record spot
      | .error _ => pure (.number (-1))

/-- Evaluate expressions. -/
def evaluateAll : Nat → List Expr → Run (List Value)
  | 0, _ => stop .failed
  | _ + 1, [] => pure []
  | fuel + 1, e :: rest => do
    let v ← evaluate fuel e
    pure (v :: (← evaluateAll fuel rest))

/-- The pattern that an expression is, or whose text it gives. -/
def patternOf : Nat → Expr → Run Regex
  | 0, _ => stop .failed
  | fuel + 1, e => do
    match e with
    | .pattern r => pure r
    | e => do
      let v ← evaluate fuel e
      compiled ((← get).spelled v)

/-- The spot of something that can be assigned to. -/
def spotOf : Nat → Expr → Run Spot
  | 0, _ => stop .failed
  | fuel + 1, e => do
    match e with
    | .named n => pure (.named n)
    | .field (.number x) => pure (.field x.toUInt64.toNat)
    | .field e =>
      let n := Number.toWhole (← evaluate fuel e).toNumber
      if n < 0 then failRunning ("negative field index $" ++ toString n)
      else pure (.field n.toNat)
    | .element array index =>
      let values ← evaluateAll fuel index
      pure (.element array ((← get).key values))
    | _ => stop .failed

/-- The spot that a record goes to, if one is given. -/
def spotOf? : Nat → Option Expr → Run (Option Spot)
  | 0, _ => stop .failed
  | _ + 1, none => pure none
  | fuel + 1, some e => some <$> spotOf fuel e

/-- What the arguments of a call stand for: arrays as they are, values otherwise. -/
def slots : Nat → List Bool → List Expr → Run (List Slot)
  | 0, _, _ => stop .failed
  | _ + 1, [], _ => pure []
  | fuel + 1, isArray :: arrays, arguments => do
    let slot : Slot ← match isArray, arguments with
      | true, .named n :: _ => .table <$> act (·.table n)
      | true, _ => act fun s =>
        (.table s.tables.size, { s with tables := s.tables.push .empty })
      | false, e :: _ => .value <$> evaluate fuel e
      | false, [] => pure (.value .unset)
    pure (slot :: (← slots fuel arrays arguments.tail))

/-- Call a function. -/
def call : Nat → String → List Expr → Run Value
  | 0, _, _ => stop .failed
  | fuel + 1, name, arguments => do
    match p.functions[name]? with
    | none => pure .unset
    | some f =>
      let before ← get
      let (frame, depth) := (before.frame, before.depth)
      let slots ← slots fuel f.arrays arguments
      let deeper := depth + slots.length + 1
      if depthLimit < deeper then fail "program limit exceeded: eval stack size=1024"
      else
        modify fun s => { s with frame := slots.toArray, depth := deeper }
        let body : Run Unit := execute fuel f.body
        let result : Value ← fun s =>
          match body s with
          | (.ok _, s) => (.ok .unset, s)
          | (.error (.give v), s) => (.ok v, s)
          | (.error why, s) => (.error why, s)
        modify fun s => { s with frame := frame, depth := depth }
        pure result

/-- Execute a statement. -/
def execute : Nat → Statement → Run Unit
  | 0, _ => stop .failed
  | fuel + 1, st => do
    match st with
    | .nothing => pure ()
    | .value e =>
      let _ ← evaluate fuel e
      pure ()
    | .print values target =>
      let values ← match values with
        | [] => do pure [← act (·.field 0)]
        | values => evaluateAll fuel values
      let s ← get
      let text := (s.sharedText "OFS").intercalate (values.map (printedText s))
        ++ s.sharedText "ORS"
      output fuel target text
    | .format values target =>
      match ← evaluateAll fuel values with
      | [] => pure ()
      | first :: values =>
        let s ← get
        let format := s.spelled first
        let (written, fault) := Layout.write s.spelled format values
        output fuel target written
        match fault with
        | some fault => failRunning (fault.words "printf" format)
        | none => pure ()
    | .block statements => executeAll fuel statements
    | .choice condition first second =>
      if (← evaluate fuel condition).isTrue then execute fuel first
      else
        match second with
        | some second => execute fuel second
        | none => pure ()
    | .repeated condition body => repeated fuel condition none body
    | .repeatedAfter body condition =>
      if ← goesOn (execute fuel body) then repeated fuel condition none body else pure ()
    | .counted start condition step body =>
      match start with
      | some start =>
        let _ ← evaluate fuel start
        repeated fuel (condition.getD (.number 1)) step body
      | none => repeated fuel (condition.getD (.number 1)) step body
    | .forEach name array body =>
      let keys ← act fun s => s.withTable array Table.keys
      forEach fuel name keys body
    | .leave => stop .leave
    | .again => stop .again
    | .nextRecord => stop .nextRecord
    | .nextFile => stop .nextFile
    | .exit status =>
      match status with
      | some e =>
        let n := Number.toWhole (← evaluate fuel e).toNumber
        modify fun s => { s with status := (n % 256).toNat }
        stop .exit
      | none => stop .exit
    | .give value =>
      match value with
      | some e => stop (.give (← evaluate fuel e))
      | none => stop (.give .unset)
    | .delete array index =>
      let values ← evaluateAll fuel index
      let key := (← get).key values
      act fun s => s.withTable array fun t => ((), t.erase key)
    | .deleteAll array => act fun s => s.withTable array fun _ => ((), .empty)

/-- Write to where output goes. -/
def output : Nat → Option (Direction × Expr) → String → Run Unit
  | 0, _, _ => stop .failed
  | _ + 1, none, text => modify (·.out text)
  | fuel + 1, some (direction, e), text => do
    let v ← evaluate fuel e
    writeTo direction ((← get).spelled v) text

/-- Execute statements. -/
def executeAll : Nat → List Statement → Run Unit
  | 0, _ => stop .failed
  | _ + 1, [] => pure ()
  | fuel + 1, st :: rest => do
    execute fuel st
    executeAll fuel rest

/-- Execute a statement as long as a condition holds. -/
def repeated : Nat → Expr → Option Expr → Statement → Run Unit
  | 0, _, _, _ => stop .failed
  | fuel + 1, condition, step, body => do
    if (← evaluate fuel condition).isTrue then
      if ← goesOn (execute fuel body) then
        match step with
        | some step =>
          let _ ← evaluate fuel step
          repeated fuel condition (some step) body
        | none => repeated fuel condition none body
      else pure ()
    else pure ()

/-- Execute a statement for each of some keys. -/
def forEach : Nat → Name → List String → Statement → Run Unit
  | 0, _, _, _ => stop .failed
  | _ + 1, _, [], _ => pure ()
  | fuel + 1, name, key :: keys, body => do
    setNamed name (.text key)
    if ← goesOn (execute fuel body) then forEach fuel name keys body else pure ()

end

/-! ## Programs -/

/-- How deep a program may go. -/
def fuelLimit : Nat := 100000000

/-- Whether a rule is for the record. -/
def applies (number : Nat) : Condition → Run Bool
  | .always => pure true
  | .holds condition => do pure (← evaluate p fuelLimit condition).isTrue
  | .range first last => do
    let isOpen := (← get).ranges.contains number
    let starts ← if isOpen then pure true else do pure (← evaluate p fuelLimit first).isTrue
    if starts then
      let ends := (← evaluate p fuelLimit last).isTrue
      modify fun s => { s with
        ranges := if ends then s.ranges.erase number
          else if isOpen then s.ranges else number :: s.ranges }
      pure true
    else pure false

/-- Do what the rules say of the record. -/
def applyRules : List (Rule × Nat) → Run Unit
  | [] => pure ()
  | (rule, number) :: rest => do
    if ← applies p number rule.condition then
      execute p fuelLimit (rule.statement.getD (.print [] none))
    applyRules rest

/-- Do what the rules say of each record. Each record takes a step, so `fuel` bounds their number. -/
def applyToAll (rules : List (Rule × Nat)) : Nat → Run Unit
  | 0 => pure ()
  | fuel + 1 => do
    match ← nextOfInput with
    | none => pure ()
    | some record =>
      modify (·.setRecord record)
      let goOn : Run Bool := fun s =>
        match applyRules p rules s with
        | (.ok _, s) | (.error .nextRecord, s) => (.ok true, s)
        | (.error .nextFile, s) => (.ok true, { s with main := .unopened })
        | (.error why, s) => (.error why, s)
      if ← goOn then applyToAll rules fuel else pure ()

/-- Execute statements up to the point where the program is told to end: whether it was not. -/
def untilExit (body : Run Unit) : Run Bool := fun s =>
  match body s with
  | (.ok _, s) => (.ok true, s)
  | (.error .exit, s) => (.ok false, s)
  | (.error why, s) => (.error why, s)

/-- Run a program. Whatever is still open at the end is closed, also if something was wrong. -/
def run : Run Unit := do
  let finish : Run Unit := do
    closeAll ((← get).sinks.length)
    modify Session.flush
  let body : Run Unit := do
    let goOn ← untilExit (p.first.forM (execute p fuelLimit))
    if p.rules.isEmpty && p.last.isEmpty then pure ()
    else
      if goOn then
        let _ ← untilExit (applyToAll p p.rules.zipIdx fuelLimit)
      let _ ← untilExit (p.last.forM (execute p fuelLimit))
  let failed : Bool ← fun s =>
    match body s with
    | (.ok _, s) => (.ok false, s)
    | (.error .failed, s) => (.ok true, s)
    | (.error why, s) => (.error why, s)
  finish
  if failed then stop .failed else pure ()

end

end CSharpBuild.Machine.Launching.Awk
