/-
Running scripts and programs. `Shell.eval` runs a script in a shell, `Shell.start` a program to its
end; the two call each other, because a script starts programs and a program may be a script.

Every call takes one off the fuel. A machine gives enough of it for any script whose loops and calls
nest or repeat less often than that; when it runs out, a script stops where it is.
-/
import CSharpBuild.Machine.Script.Reader
import CSharpBuild.Machine.Shell.Builtin
import CSharpBuild.Machine.Shell.Redirect
import CSharpBuild.Machine.Toolbox

namespace CSharpBuild.Machine.Shell

/-- Whether a shell that failed ends, unless its status is being tested. -/
def endIfStrict (tested : Bool) : Act Unit := do
  let s ← get
  if s.has 'e' && !tested && s.status ≠ 0 then throw .ended

/-- Come to the end of the body or the condition of a loop: what is skipped there. -/
def skipInLoop : Act Skip := do
  let s ← get
  match s.skip with
  | .loops count again =>
    if count ≤ 1 then
      set { s with skip := .nothing }
      pure s.skip
    else
      set { s with skip := .loops (count - 1) again }
      pure (.loops count false)
  | skip => pure skip

/-- Whether a loop goes on with its next round. -/
def Skip.goesOn : Skip → Bool
  | .nothing | .loops _ true => true
  | .loops _ false | .function => false

/-- Set the number of loops that are under way. -/
def countLoops (change : Nat → Nat) : Act Unit := modify fun s => { s with loops := change s.loops }

/-- What a command stands for. -/
inductive Target where
  | nothing
  | function (body : Script)
  | builtin (special : Bool)
  | program

/-- How a command was named: the fields read so far, the words that are left, and what was in front
of it. -/
structure Naming where
  fields : List String
  words : List Word
  /-- Whether functions are passed over. -/
  plain : Bool
  /-- Whether the first command that was named is special, if it is one of the shell's own. -/
  special : Option Bool
  /-- Whether the usual search path is taken. -/
  usualPath : Bool

/-- The search path that is always there. -/
def usualSearchPath : String :=
  "/usr/local/sbin:/usr/local/bin:/usr/sbin:/usr/bin:/sbin:/bin"

/-- Expand words until there is a field. -/
def firstFields (output : Script → Act String) : List Word → Act (List String × List Word)
  | [] => pure ([], [])
  | word :: rest => do
    match ← fieldsOf output word with
    | [] => firstFields output rest
    | fields => pure (fields, rest)

/-- What the name of a command stands for. -/
def target (s : Shell) (n : Naming) : Target :=
  match n.fields with
  | [] => .nothing
  | name :: _ =>
    if Script.specialCommands.contains name then .builtin true
    else
      match if n.plain then none else s.functions.lookup name with
      | some body => .function body
      | none => if regularNames.contains name then .builtin false else .program

/-- Pass over `command` and its options in front of a command: the rest, unless they ask for
something else. Each step takes a field, so `fuel` bounds their number. -/
def afterCommand (output : Script → Act String) : Nat → Naming → Act (Option Naming)
  | 0, _ => pure none
  | fuel + 1, n => do
    let (fields, words) ←
      match n.fields with
      | [] => firstFields output n.words
      | fields => pure (fields, n.words)
    let n := { n with fields := fields, words := words }
    match fields with
    | [] => pure none
    | field :: rest =>
      match field.toList with
      | ['-', '-'] =>
        let (rest, words) ←
          if rest.isEmpty then firstFields output words else pure (rest, words)
        pure (if rest.isEmpty then none else some { n with fields := rest, words := words })
      | '-' :: c :: more =>
        if (c :: more).all (· = 'p') then
          afterCommand output fuel { n with fields := rest, usualPath := true }
        else pure none
      | _ => pure (some n)

/-- Find out how a command is named, with what stands in front of it. -/
def naming (output : Script → Act String) : Nat → Naming → Act Naming
  | 0, n => pure n
  | fuel + 1, n => do
    match (← get).target n with
    | .builtin special =>
      let n := { n with special := some (n.special.getD special) }
      if n.fields.head? = some "command" then
        match ← afterCommand output 100 { n with fields := n.fields.tail } with
        | some after => naming output fuel { after with plain := true }
        | none => pure n
      else pure n
    | _ => pure n

/-- The commands that take assignments as arguments. -/
def settingCommands : List String := ["alias", "export", "local", "readonly"]

/-- Whether the first line of a file looks like text. -/
def looksLikeText (content : String) : Bool :=
  (content.toList.takeWhile (· ≠ '\n')).all fun c =>
    (' ' ≤ c || ('\t' ≤ c && c ≤ '\r')) && c ≠ '\x7f'

/-- What a script writes, as it stands in a word. -/
def asOutput (text : String) : String :=
  let chars := text.toList.filter (· ≠ '\x00')
  String.ofList (chars.reverse.dropWhile (· = '\n')).reverse

/-- Start something that has its own shell, and take back what it leaves to the world. -/
def within (inner : Shell → (Except Stop Unit) × Shell)
    (finish : (Except Stop Unit) × Shell → Ending × Shell) (own : Bool) : Act Ending := fun s =>
  let (process, world) :=
    if own then s.world.newProcess else (s.processId, s.world)
  let world' := world
  let child := { s with
    world := world'
    processId := process
    parentId := if own then s.processId else s.parentId
    traps := s.withoutTraps.traps
    jobs := if own then [] else s.jobs }
  let (ending, child) := finish (inner child)
  (.ok ending, { s with world := child.world })

/-- Take note of how a process that was waited for has ended. -/
def conclude (ending : Ending) : Act Unit := do
  notice ending
  setStatus ending.status

/-- End as something has ended that was the last thing to do. -/
def endAs (ending : Ending) : Act Unit := do
  match ending with
  | .exited status =>
    setStatus status
    throw .ended
  | .killed signal => throw (.killed signal)

/-- Write for a program that is not a shell, as far as its streams are open. -/
def deliver (j : Job) : List (Nat × String) → World → Bool × World
  | [], w => (true, w)
  | (stream, text) :: rest, w =>
    match j.streams.lookup stream with
    | none => deliver j rest w
    | some file =>
      match w.write file text with
      | (true, w) => deliver j rest w
      | (false, w) => (false, w)

/-- Run a tool to its end. -/
def runTool (t : Tool) (j : Job) (w : World) : Ending × World :=
  let (input, w) :=
    match j.streams.lookup 0 with
    | some file => w.pending file
    | none => ([], w)
  let seekable := (j.streams.lookup 0).any w.isSeekable
  let e := t ⟨j.name, j.args, j.environment, w.disk, j.cwd, input, seekable⟩
  let w := { w with disk := e.disk, clock := w.clock + e.lasted }
  let w :=
    match j.streams.lookup 0 with
    | some file => w.advance file e.taken
    | none => w
  let lost := (j.streams.lookup 1).isNone && e.written.any fun (stream, _) => stream = 1
  let written :=
    if lost then
      e.written ++ [(2, j.name ++ ": write error: Bad file descriptor\n")]
    else e.written
  match deliver j written w with
  | (true, w) => (.exited (if lost then 1 else e.status), w)
  | (false, w) => (if j.ignored.contains 13 then .exited 1 else .killed 13, w)

/-- End at once with a complaint. -/
def refuse (j : Job) (status : Nat) (text : String) (w : World) : Ending × World :=
  (.exited status, (deliver j [(2, text ++ "\n")] w).2)

/-- What the arguments of a shell say. -/
structure Invocation where
  options : List Char
  /-- Whether the first operand is a script itself. -/
  isText : Bool
  /-- Whether the script is read from the input. -/
  fromInput : Bool
  operands : List String

namespace Invocation

/-- Switch an option. -/
def switch (i : Invocation) (on : Bool) (letter : Char) : Invocation :=
  let others := i.options.filter (· ≠ letter)
  { i with options := if on then letter :: others else others }

/-- Read the letters of an option. -/
def letters (on : Bool) : List Char → List String → Invocation →
    Except String (List String × Invocation)
  | [], args, i => .ok (args, i)
  | 'c' :: rest, args, i => letters on rest args { i with isText := true }
  | 'l' :: rest, args, i => letters on rest args i
  | 'o' :: rest, args, i =>
    match args with
    | [] => letters on rest [] i
    | name :: args =>
      match optionTable.find? fun (_, other) => other = name with
      | some (letter, _) => letters on rest args (i.switch on letter)
      | none => .error ("Illegal option -o " ++ name)
  | letter :: rest, args, i =>
    if letter.isAlpha && (optionTable.map Prod.fst).contains letter then
      letters on rest args (i.switch on letter)
    else .error ("Illegal option -" ++ String.singleton letter)

/-- Read arguments. Each step takes one, so `fuel` is their number. -/
def readWithin : Nat → List String → Invocation → Except String Invocation
  | 0, args, i => .ok { i with operands := args }
  | fuel + 1, args, i =>
    match args with
    | [] => .ok { i with operands := [] }
    | arg :: rest =>
      match arg.toList with
      | ['-'] | ['-', '-'] => .ok { i with operands := rest }
      | '-' :: c :: more => do
        let (rest, i) ← letters true (c :: more) rest i
        readWithin fuel rest i
      | '+' :: more => do
        let (rest, i) ← letters false more rest i
        readWithin fuel rest i
      | _ => .ok { i with operands := args }

/-- Read arguments. -/
def read (args : List String) : Except String Invocation := do
  let i ← readWithin (args.length + 1) args ⟨[], false, false, []⟩
  if i.operands.isEmpty then
    if i.isText then .error "-c requires an argument"
    else .ok { i with fromInput := true, options := 's' :: i.options.filter (· ≠ 's') }
  else .ok { i with fromInput := i.options.contains 's' && !i.isText }

end Invocation

mutual

/-- Run a script. `tested` says that its status is being tested, and `last` that nothing follows it
in the shell. -/
def eval : Nat → Script → Bool → Bool → Act Unit
  | 0, _, _, _ => throw .ended
  | fuel + 1, script, tested, last => do
    handleSignals fuel
    if (← get).has 'n' then pure ()
    else
      match script with
      | .nothing => setStatus 0
      | .simple line assignments words redirections =>
        simple fuel line assignments words redirections tested last
        handleSignals fuel
        endIfStrict tested
      | .redirected line body redirections =>
        modify fun s => { s with line := line }
        let openings ← redirections.mapM (opening (outputOf fuel))
        let before := (← get).streams
        if ← redirectAll (outputOf fuel) openings then
          eval fuel body tested false
          modify fun s => { s with streams := before }
        else
          modify fun s => { s with streams := before }
          setStatus 2
          endIfStrict tested
      | .subshell line body redirections =>
        modify fun s => { s with line := line }
        let openings ← redirections.mapM (opening (outputOf fuel))
        let inner : Act Unit := do
          openings.forM (redirect (outputOf fuel))
          eval fuel body tested true
        let isOwn := !(last && (← get).traps.all fun (_, action) => action.isEmpty)
        let ending ← within inner (finish fuel) isOwn
        if isOwn then conclude ending else endAs ending
        handleSignals fuel
        endIfStrict tested
      | .background body =>
        let time := (← get).world.clock
        let inner : Act Unit := do
          let s ← get
          let (file, world) := s.world.openFile ⟨.sink, 0, false⟩
          set { s with world := world, streams := setStream s.streams 0 file }
          eval fuel body false true
        let ending ← within inner (finish fuel) true
        modify fun s =>
          let process := s.world.lastProcess
          { s with
            background := some process
            jobs := (process, ⟨ending, s.world.clock⟩) :: s.jobs
            world := { s.world with clock := time }
            status := 0 }
      | .sequence first second =>
        eval fuel first tested false
        if (← get).skip = .nothing then eval fuel second tested last
      | .both first second =>
        eval fuel first true false
        let s ← get
        if s.status = 0 && s.skip = .nothing then eval fuel second tested last
      | .either first second =>
        eval fuel first true false
        let s ← get
        if s.status ≠ 0 && s.skip = .nothing then eval fuel second tested last
      | .negated body =>
        eval fuel body true false
        setStatus (if (← get).status = 0 then 1 else 0)
      | .pipeline stages =>
        let s ← get
        let ending ← pipeline fuel stages tested s.world.clock s.world.clock (.exited 0)
        setStatus ending.status
        handleSignals fuel
        endIfStrict tested
      | .choose condition yes no =>
        eval fuel condition true false
        let s ← get
        if s.skip = .nothing then
          if s.status = 0 then eval fuel yes tested last else eval fuel no tested last
      | .repeated succeeds condition body =>
        countLoops (· + 1)
        rounds fuel succeeds condition body tested 0
        countLoops (· - 1)
      | .each line name items body =>
        modify fun s => { s with line := line }
        let values ← fields (outputOf fuel) items
        countLoops (· + 1)
        setStatus 0
        roundsFor fuel name values body tested
        countLoops (· - 1)
      | .select line subject arms =>
        modify fun s => { s with line := line }
        let text ← text (outputOf fuel) subject
        select fuel text.toList arms tested last
      | .define name body =>
        modify fun s => { s with
          functions := (name, body) :: s.functions.filter (·.1 ≠ name), status := 0 }

/-- Repeat a body as long as a condition succeeds, or fails. The status of the body comes last. -/
def rounds : Nat → Bool → Script → Script → Bool → Nat → Act Unit
  | 0, _, _, _, _, _ => throw .ended
  | fuel + 1, succeeds, condition, body, tested, status => do
    eval fuel condition true false
    let skip ← skipInLoop
    if skip ≠ .nothing then
      if Skip.goesOn skip then rounds fuel succeeds condition body tested status
      else if skip ≠ .function then setStatus status
    else if ((← get).status == 0) ≠ succeeds then setStatus status
    else
      eval fuel body tested false
      let skip ← skipInLoop
      let status := (← get).status
      if Skip.goesOn skip then rounds fuel succeeds condition body tested status

/-- Run a body for each value of a variable. -/
def roundsFor : Nat → String → List String → Script → Bool → Act Unit
  | 0, _, _, _, _ => throw .ended
  | _ + 1, _, [], _, _ => pure ()
  | fuel + 1, name, value :: rest, body, tested => do
    assign name value
    eval fuel body tested false
    if Skip.goesOn (← skipInLoop) then roundsFor fuel name rest body tested

/-- Run the first arm with a pattern that covers the subject. -/
def select : Nat → List Char → List (List Word × Script) → Bool → Bool → Act Unit
  | 0, _, _, _, _ => throw .ended
  | _ + 1, _, [], _, _ => setStatus 0
  | fuel + 1, subject, (patterns, body) :: rest, tested, last => do
    if ← covered fuel subject patterns then
      setStatus 0
      match body with
      | .nothing => pure ()
      | body => eval fuel body tested last
    else select fuel subject rest tested last

/-- Whether one of some patterns covers a text. Those after it are not looked at. -/
def covered : Nat → List Char → List Word → Act Bool
  | 0, _, _ => pure false
  | _ + 1, _, [] => pure false
  | fuel + 1, subject, word :: rest => do
    if (← pattern (outputOf fuel) word).covers subject then pure true
    else covered fuel subject rest

/-- Run the stages of a pipeline, each with its output as the input of the next. They all start at
the same time, and the last one ends the latest. -/
def pipeline : Nat → List Script → Bool → Nat → Nat → Ending → Act Ending
  | 0, _, _, _, _, _ => throw .ended
  | _ + 1, [], _, _, latest, ending => do
    onWorld fun w => w.waitUntil latest
    pure ending
  | fuel + 1, stage :: rest, tested, time, latest, _ => do
    let s ← get
    let before := s.streams
    onWorld fun w => { w with clock := time }
    let file ←
      if rest.isEmpty then pure none
      else
        let (_, file, world) := (← get).world.openPipe true
        modify fun s => { s with world := world }
        pure (some file)
    let inner : Act Unit := do
      if let some file := file then
        modify fun s => { s with streams := setStream s.streams 1 file }
      eval fuel stage tested true
    let ending ← within inner (finish fuel) true
    notice ending
    if let some file := file then
      modify fun s => { s with streams := setStream s.streams 0 file }
    let clock := (← get).world.clock
    let ending ← pipeline fuel rest tested time (max latest clock) ending
    modify fun s => { s with streams := before }
    pure ending

/-- What a script writes when it runs in a shell of its own. -/
def outputOf : Nat → Script → Act String
  | 0, _ => throw .ended
  | fuel + 1, script => do
    let s ← get
    let (pipe, file, world) := s.world.openPipe false
    set { s with world := world }
    let inner : Act Unit := do
      modify fun s => { s with streams := setStream s.streams 1 file }
      eval fuel script false true
    let ending ← within inner (finish fuel) true
    notice ending
    modify fun s => { s with outputStatus := ending.status }
    let (text, world) := (← get).world.pending file
    modify fun s => { s with world := world.changePipe pipe fun p => { p with waiting := [] } }
    pure (asOutput (String.ofList text))

/-- End a shell that has come to its end, with what it does when it ends. -/
def finish : Nat → (Except Stop Unit) × Shell → Ending × Shell
  | 0, (_, s) => (.exited (s.status % 256), s)
  | fuel + 1, (result, s) =>
    match result with
    | .error (.killed signal) => (.killed signal, s)
    | _ =>
      match s.trap? 0 with
      | none => (.exited (s.status % 256), s)
      | some action =>
        let s := { s with
          traps := s.traps.filter (·.1 ≠ 0)
          skip := .nothing
          statusBeforeTrap := some s.status }
        match evalText fuel action false false s with
        | (.error (.killed signal), s) => (.killed signal, s)
        | (.ok _, s) => (.exited ((s.statusBeforeTrap.getD s.status) % 256), s)
        | (.error _, s) => (.exited (s.status % 256), s)

/-- Do what is to be done about the signals that have come. -/
def handleSignals : Nat → Act Unit
  | 0 => pure ()
  | fuel + 1 => do
    let s ← get
    if s.world.signals.isEmpty || s.skip ≠ .nothing then pure ()
    else
      let own := (s.world.signals.filter (·.1 = s.processId)).map Prod.snd
      match own.mergeSort (· ≤ ·) with
      | [] => pure ()
      | number :: _ =>
        let others := s.world.signals.filter fun sent => sent ≠ (s.processId, number)
        set { s with world := { s.world with signals := others } }
        match s.trap? number with
        | none => if Signal.passes number then pure () else throw (.killed number)
        | some action =>
          let status := s.status
          let before := s.statusBeforeTrap
          modify fun s => { s with statusBeforeTrap := some status }
          let _ ← evalText fuel action false false
          modify fun s => { s with statusBeforeTrap := before }
          if (← get).skip ≠ .function then setStatus status
        handleSignals fuel

/-- Run a text as a script: whether there was a command in it. -/
def evalText : Nat → String → Bool → Bool → Act Bool
  | 0, _, _, _ => throw .ended
  | fuel + 1, text, tested, last => do
    let s ← get
    let ran ← evalSource fuel (.ofText text s.documents s.aliases) tested last false
    modify fun after => { after with lineRead := s.lineRead }
    pure ran

/-- Run the commands of a source one after the other. `ran` says that there has been one. -/
def evalSource : Nat → Script.Source → Bool → Bool → Bool → Act Bool
  | 0, _, _, _, _ => throw .ended
  | fuel + 1, source, tested, last, ran => do
    let s ← get
    let source := { source with documents := s.documents, aliases := s.aliases }
    match Script.next? source with
    | .error flaw =>
      if s.has 'v' then
        let _ ← emit 2 (String.ofList source.rest)
      modify fun s => { s with line := flaw.line, lineRead := flaw.line }
      fail ("Syntax error: " ++ flaw.fault.words)
    | .ok (command, after) =>
      modify fun s => { s with documents := after.documents, lineRead := after.line }
      if s.has 'v' then
        let _ ← emit 2 (String.ofList (source.rest.take (source.rest.length - after.rest.length)))
      match command with
      | none => pure ran
      | some (.nothing, _) => evalSource fuel after tested last ran
      | some (script, atEnd) =>
        eval fuel script tested (last && atEnd)
        if (← get).skip = .nothing then evalSource fuel after tested last true
        else pure true

/-- Run a simple command. -/
def simple : Nat → Nat → List (String × Word) → List Word → List Redirection → Bool → Bool →
    Act Unit
  | 0, _, _, _, _, _, _ => throw .ended
  | fuel + 1, line, assignments, words, redirections, tested, last => do
    modify fun s => { s with line := line, outputStatus := 0 }
    let output := outputOf fuel
    let (first, words) ← firstFields output words
    let n ← naming output 100 ⟨first, words, false, none, false⟩
    let command := n.fields.headD ""
    let setting := settingCommands.contains command
    let more ← n.words.mapM (if setting then settingFields output else fieldsOf output)
    let all := n.fields ++ more.flatten
    let target := (← get).target n
    let isSpecial := n.special.getD false
    let isLocal := !(target matches .nothing) && !isSpecial
    let isExec := command = "exec" && n.special.isSome
    let frames := (← get).frames.length
    let streams := (← get).streams
    if isLocal then openFrame
    let openings ← redirections.mapM (opening output)
    if !(← redirectAll output openings) then
      modify fun s => { s with streams := streams }
      setStatus 2
      if isSpecial then throw .failed
    else
      let values ← assignments.mapM fun (name, word) => do
        let value ← assigned output word
        if isLocal then keepVariable name
        assignAs name value (isLocal || (isExec && 1 < all.length))
        pure (name ++ "=" ++ value)
      if (← get).has 'x' then trace streams (values ++ all)
      match target with
      | .nothing => setStatus (← get).outputStatus
      | .function body => runFunction fuel body all.tail tested
      | .builtin _ => runBuiltin fuel command all.tail isSpecial tested n.usualPath
      | .program => runProgram fuel command all.tail last n.usualPath
      if !isExec then modify fun s => { s with streams := streams }
    closeFrames frames
where
  /-- Show a command on the stream for complaints as it was before the command. -/
  trace (streams : Descriptors) (fields : List String) : Act Unit := do
    let s ← get
    let front := (s.valueOf? "PS4").getD ""
    set { s with streams := streams }
    let _ ← emit 2 (front ++ " ".intercalate fields ++ "\n")
    modify fun after => { after with streams := s.streams }

/-- Run a function. -/
def runFunction : Nat → Script → List String → Bool → Act Unit
  | 0, _, _, _ => throw .ended
  | fuel + 1, body, args, tested => fun s =>
    let restore (after : Shell) : Shell := { after with
      arguments := s.arguments
      optionIndex := s.optionIndex
      optionOffset := s.optionOffset
      loops := s.loops
      skip := if after.skip = .function then .nothing else after.skip }
    let inner := { s with arguments := args, optionIndex := 1, optionOffset := none, loops := 0 }
    match eval fuel body tested false inner with
    | (result, after) => (result, restore after)

/-- Run a command that the shell does itself. -/
def runBuiltin : Nat → String → List String → Bool → Bool → Bool → Act Unit
  | 0, _, _, _, _, _ => throw .ended
  | fuel + 1, name, args, isSpecial, tested, usualPath => fun s =>
    let act : Act Nat :=
      match name with
      | "eval" => do
        let ran ← evalText fuel (" ".intercalate args) tested false
        let status := (← get).status
        pure (if ran then status else 0)
      | "." => source fuel args
      | "exec" =>
        match args with
        | [] => pure 0
        | name :: args => do
          runProgram fuel name args true usualPath
          throw .ended
      | "exit" => do
        match args with
        | arg :: _ => setStatus (← natural arg)
        | [] => modify fun s => { s with status := s.statusBeforeTrap.getD s.status }
        throw .ended
      | "return" => do
        let status ← match args with
          | arg :: _ => natural arg
          | [] => pure (← get).status
        modify fun s => { s with skip := .function }
        pure status
      | "break" | "continue" => do
        let count ← match args with
          | arg :: _ => natural arg
          | [] => pure 1
        if count = 0 then fail ("Illegal number: " ++ args.headD "")
        modify fun s =>
          let count := min count s.loops
          if count = 0 then s else { s with skip := .loops count (name = "continue") }
        pure 0
      | "command" => do
        let (given, names) ← givenOptions "pvV" args
        match names with
        | [] => pure 0
        | name :: _ =>
          match given.getLast?.map Prod.fst with
          | some 'v' => locate name
          | some 'V' => describe name
          | _ => pure 0
      | _ =>
        match builtin? name with
        | some builtin => builtin args
        | none => pure 0
    let before := s.command
    let done (s : Shell) : Shell := { s with command := before, lostOutput := false }
    match act { s with command := some name, lostOutput := false } with
    | (.ok status, s) =>
      if s.lostOutput then
        let (_, s) := complain (name ++ ": I/O error") s
        (.ok (), { done s with status := Nat.lor status 1 })
      else (.ok (), { done s with status := status })
    | (.error .failed, s) =>
      if isSpecial then (.error .failed, done s) else (.ok (), done s)
    | (.error stop, s) => (.error stop, done s)

/-- Run a file as a script in the shell itself. -/
def source : Nat → List String → Act Nat
  | 0, _ => throw .ended
  | fuel + 1, args => do
    match (← givenOptions "" args).2 with
    | [] => pure 0
    | name :: _ =>
      let s ← get
      let path ←
        if name.contains '/' then pure name
        else
          match (Launch.places s.searchPath name).find? (s.world.disk.isFile s.cwd) with
          | some path => pure path
          | none => fail (name ++ ": not found")
      match s.world.disk.find s.cwd path with
      | .error t => fail (openingFailure false path t)
      | .ok node =>
        modify fun s => { s with command := some path }
        let ran ← evalText fuel ((Disk.contentOf node).toOption.getD "") false false
        modify fun s => { s with
          command := some name
          skip := if s.skip = .function then .nothing else s.skip }
        let status := (← get).status
        pure (if ran then status else 0)

/-- Run a program from a shell. A file that names no interpreter is run as a script if it looks like
one. -/
def runProgram : Nat → String → List String → Bool → Bool → Act Unit
  | 0, _, _, _, _ => throw .ended
  | fuel + 1, name, args, last, usualPath => do
    let s ← get
    let isExec := s.command = some "exec"
    let isOwn := !(last && (isExec || s.traps.all fun (_, action) => action.isEmpty))
    let isPath := name.contains '/'
    let fails (status : Nat) (text : String) : Act Unit := do
      complain (name ++ ": " ++ text)
      setStatus status
      if isExec then throw .ended
    let found :=
      if name.isEmpty then .error .denied
      else Launch.path s.world.disk s.cwd (if usualPath then usualSearchPath else s.searchPath) name
    match found with
    | .error .denied =>
      fails (if isPath || isExec then 126 else 127) "Permission denied"
    | .error _ => fails 127 "not found"
    | .ok path =>
      if !isPath && (s.found.lookup name).isNone then
        modify fun s => { s with found := (name, path) :: s.found }
      let (process, world) := if isOwn then s.world.newProcess else (s.processId, s.world)
      modify fun s => { s with world := world }
      let s ← get
      let job := { s.job name args with
        processId := process
        parentId := if isOwn then s.processId else s.parentId }
      let ended (x : Ending × World) : Act Unit := do
        modify fun s => { s with world := x.2, traps := if isExec then [] else s.traps }
        if isOwn then conclude x.1 else endAs x.1
      match start fuel path job s.world with
      | .ok x => ended x
      | .error .unknownFormat =>
        if looksLikeText ((s.world.disk.read s.cwd path).toOption.getD "") then
          ended (runShell fuel { job with name := "/bin/sh", args := path :: args } s.world)
        else fails 126 "Exec format error"
      | .error .denied => fails 126 "Permission denied"
      | .error .missing => fails 127 "not found"

/-- Start the program at a path and run it to its end. -/
def start : Nat → String → Job → World → Except Refusal (Ending × World)
  | 0, _, _, _ => .error .missing
  | fuel + 1, path, j, w =>
    match w.disk.find j.cwd path with
    | .error .denied => .error .denied
    | .error _ => .error .missing
    | .ok (.program name) => .ok (runInstalled fuel name j w)
    | .ok (.file content true) =>
      match Launch.interpreter? content with
      | some (interpreter, args) =>
        start fuel interpreter { j with name := interpreter, args := args ++ path :: j.args } w
      | none => .error .unknownFormat
    | .ok _ => .error .denied

/-- Run an installed program to its end. -/
def runInstalled : Nat → String → Job → World → Ending × World
  | 0, _, j, w => refuse j 2 "" w
  | fuel + 1, name, j, w =>
    match name with
    | "sh" | "dash" | "bash" => runShell fuel j w
    | _ =>
      match Toolbox.tool? name with
      | some t => runTool t j w
      | none =>
        match Toolbox.launcher? name with
        | some l =>
          let (input, w) :=
            match j.streams.lookup 0 with
            | some file => w.pending file
            | none => ([], w)
          let l := l ⟨j.name, j.args, j.environment, w.disk, j.cwd, input, false⟩
          let w := { w with disk := l.disk }
          let w :=
            match j.streams.lookup 0 with
            | some file => w.advance file l.taken
            | none => w
          runCourse fuel j l l.course w
        | none => refuse j 127 (j.name ++ ": not found") w

/-- Take the course of a program that runs others. -/
def runCourse : Nat → Job → Launching → Course → World → Ending × World
  | 0, j, _, _, w => refuse j 2 "" w
  | _ + 1, _, _, .done status, w => (.exited status, w)
  | fuel + 1, j, l, .write stream text rest, w =>
    match deliver j [(stream, text)] w with
    | (true, w) => runCourse fuel j l rest w
    | (false, w) => (.killed 13, w)
  | fuel + 1, j, l, .run [] next, w => runCourse fuel j l (next (.ok (.exited 0))) w
  | fuel + 1, j, l, .run (name :: args) next, w =>
    let time := w.clock
    let (process, w) := if l.replaced then (j.processId, w) else w.newProcess
    let (empty, w) := w.openFile ⟨.sink, 0, false⟩
    let streams := if l.sharesInput then j.streams else setStream j.streams 0 empty
    let job : Job := { j with
      name := name, args := args, environment := l.environment, cwd := l.cwd
      processId := process, streams := streams
      parentId := if l.replaced then j.parentId else j.processId }
    let searchPath := (l.environment.lookup "PATH").getD usualSearchPath
    let started : Except Refusal (Ending × World) :=
      match Launch.path w.disk l.cwd searchPath name with
      | .error refusal => .error refusal
      | .ok path =>
        match start fuel path job w with
        | .error .unknownFormat =>
          .ok (runShell fuel { job with name := "/bin/sh", args := path :: args } w)
        | x => x
    match started with
    | .error refusal => runCourse fuel j l (next (.error refusal)) w
    | .ok (ending, w) =>
      match l.limit with
      | some (limit, overdue) =>
        if time + limit < w.clock then (overdue, w.cutOff (time + limit))
        else runCourse fuel j l (next (.ok ending)) w
      | none => if l.replaced then (ending, w) else runCourse fuel j l (next (.ok ending)) w

  | fuel + 1, j, l, .leave disk rest, w => runCourse fuel j l rest { w with disk := disk }
  | fuel + 1, j, l, .exchange command given captures next, w =>
    let (streams, w) : Descriptors × World :=
      match given with
      | some text =>
        let (_, file, w) := w.openPipe false
        (setStream j.streams 0 file, (w.write file text).2)
      | none => (j.streams, w)
    let (pipe, file, w) := w.openPipe false
    let streams := if captures then setStream streams 1 file else streams
    let (process, w) := w.newProcess
    let job : Job := { j with
      name := command.headD "", args := command.tail, streams := streams, processId := process
      parentId := j.processId }
    let searchPath := (l.environment.lookup "PATH").getD usualSearchPath
    let started : Except Refusal (Ending × World) := do
      start fuel (← Launch.path w.disk l.cwd searchPath job.name) job w
    let (ending, w) := match started with
      | .ok result => result
      | .error refusal => (.exited (Course.refusedStatus refusal), w)
    runCourse fuel j l (next ending (w.pipeContent pipe) w.disk) w

/-- Run a shell as a program. -/
def runShell : Nat → Job → World → Ending × World
  | 0, j, w => refuse j 2 "" w
  | fuel + 1, j, w =>
    let refuseEarly (text : String) : Ending × World :=
      refuse j 2 (j.name ++ ": 0: " ++ text) w
    match Invocation.read j.args with
    | .error text => refuseEarly text
    | .ok i =>
      let run (text name : String) (args : List String) (w : World) (last : Bool) :
          Ending × World :=
        let s := ofJob j w name args i.options
        let (result, s) := evalText fuel text false last s
        let (ending, s) := finish fuel (result.map fun _ => (), s)
        (ending, s.world)
      if i.isText then
        match i.operands with
        | text :: name :: args => run text name args w true
        | [text] => run text j.name [] w true
        | [] => refuseEarly ""
      else if i.fromInput then
        let (text, w) :=
          match j.streams.lookup 0 with
          | some file =>
            let (text, w) := w.pending file
            (String.ofList text, w.advance file text.length)
          | none => ("", w)
        run text j.name i.operands w false
      else
        match i.operands with
        | path :: args =>
          match w.disk.find j.cwd path with
          | .error t => refuseEarly (openingFailure false path t)
          | .ok node => run ((Disk.contentOf node).toOption.getD "") path args w false
        | [] => refuseEarly ""

end

end CSharpBuild.Machine.Shell
