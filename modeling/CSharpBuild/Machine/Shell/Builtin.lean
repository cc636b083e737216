/-
The commands that a shell does itself and that run no other script. Each takes its arguments and
leaves a status; an error in one stops it, with a complaint that begins with its name.
-/
import CSharpBuild.Machine.Condition
import CSharpBuild.Machine.Format
import CSharpBuild.Machine.Shell.Expand

namespace CSharpBuild.Machine.Shell

/-- A command that the shell does itself. -/
abbrev Builtin := List String → Act Nat

/-- Write for the current command. -/
def say (text : String) : Act Unit := do
  if !(← emit 1 text) then modify fun s => { s with lostOutput := true }

/-- Write a line for the current command. -/
def sayLine (text : String) : Act Unit := say (text ++ "\n")

/-- Write to the stream for complaints as it stands. -/
def blame (text : String) : Act Unit := do
  let _ ← emit 2 (text ++ "\n")

/-- The number that an argument writes. -/
def natural (text : String) : Act Nat :=
  match Condition.integer text with
  | .ok n => if 0 ≤ n ∧ n < 2147483648 then pure n.toNat else fail ("Illegal number: " ++ text)
  | .error complaint => fail complaint

/-! ## Options -/

/-- An option that was given, with its argument if it takes one. -/
abbrev Given := Char × Option String

/-- Take options off the front of some arguments. `letters` says which there are; those before a
colon take an argument. Each step takes a letter, so `fuel` is the size of the arguments. -/
def optionsWithin (letters : List Char) : Nat → List Char → List String →
    Act (List Given × List String)
  | 0, _, args => pure ([], args)
  | fuel + 1, [], args =>
    match args with
    | [] => pure ([], [])
    | arg :: rest =>
      match arg.toList with
      | ['-', '-'] => pure ([], rest)
      | '-' :: c :: more => optionsWithin letters fuel (c :: more) rest
      | _ => pure ([], args)
  | fuel + 1, c :: more, args =>
    match letters.dropWhile (· ≠ c) with
    | _ :: ':' :: _ =>
      if c = ':' then fail "Illegal option -:"
      else
        match more, args with
        | [], [] => fail ("No arg for -" ++ c.toString ++ " option")
        | [], arg :: rest => do
          let (given, rest) ← optionsWithin letters fuel [] rest
          pure ((c, some arg) :: given, rest)
        | more, args => do
          let (given, rest) ← optionsWithin letters fuel [] args
          pure ((c, some (String.ofList more)) :: given, rest)
    | _ :: _ => do
      let (given, rest) ← optionsWithin letters fuel more args
      pure ((c, none) :: given, rest)
    | [] => fail ("Illegal option -" ++ c.toString)

/-- Take options off the front of some arguments. -/
def givenOptions (letters : String) (args : List String) : Act (List Given × List String) :=
  optionsWithin letters.toList ((args.map fun arg => arg.length + 1).foldl (· + ·) 0 + 1) [] args

/-! ## Writing and asking -/

/-- The shell's `echo`: escapes count, and `-n` leaves the newline out. -/
def echo : Builtin := fun args => do
  let (newline, args) : Bool × List String :=
    match args with
    | "-n" :: rest => (false, rest)
    | _ => (true, args)
  let (text, stop) := Escape.expand false (" ".intercalate args).toList
  say (String.ofList (if newline && !stop then text ++ ['\n'] else text))
  pure 0

/-- Write a format with arguments. -/
def printf : Builtin := fun args => do
  match ← givenOptions "" args with
  | (_, []) => fail "usage: printf format [arg ...]"
  | (_, format :: args) =>
    let w := Format.render false format args
    w.complaints.forM complain
    match w.stopped with
    | some (some complaint) =>
      complain complaint
      say w.all
      setStatus 2
      throw .failed
    | _ =>
      say w.all
      pure (if w.complaints.isEmpty then 0 else 1)

/-- Answer a condition with the status: zero when it holds. -/
def test : Builtin := fun args => do
  let s ← get
  match Condition.holds s.world.disk s.cwd args with
  | .ok answer => pure (if answer then 0 else 1)
  | .error complaint => fail complaint

/-- A condition in brackets. -/
def bracket : Builtin := fun args =>
  if args.getLast? = some "]" then test args.dropLast else fail "missing ]"

/-! ## Variables -/

/-- A text in quotes, as a script could write it. -/
def quote (text : String) : String :=
  String.ofList (go (text.length + 1) text.toList)
where
  /-- Quote the text piece by piece: what has no quotes in single ones, and quotes in double ones. -/
  go : Nat → List Char → List Char
    | 0, _ => []
    | fuel + 1, text =>
      let plain := text.takeWhile (· ≠ '\'')
      let rest := text.drop plain.length
      let quotes := rest.takeWhile (· = '\'')
      let rest := rest.drop quotes.length
      '\'' :: plain ++ ['\''] ++ (if quotes.isEmpty then [] else '"' :: quotes ++ ['"'])
        ++ (if rest.isEmpty then [] else go fuel rest)

/-- Write variables as assignments, behind the name of a command. -/
def showVariables (front : String) (which : Variable → Bool) : Act Unit := do
  let s ← get
  let front := if front.isEmpty then "" else front ++ " "
  let shown := (s.bindings.filter fun (_, v) => which v).mergeSort fun a b => a.1 ≤ b.1
  shown.forM fun (name, v) =>
    sayLine (front ++ name ++ (match v.value with
      | some value => "=" ++ quote value
      | none => ""))

/-- Check that a text is a name. -/
def checkName (name : String) : Act Unit :=
  if Script.isName name then pure () else fail (name ++ ": bad variable name")

/-- Split an argument at the sign of an assignment. -/
def splitAssignment (arg : String) : String × Option String :=
  let name := arg.toList.takeWhile (· ≠ '=')
  (String.ofList name,
    if name.length < arg.length then some (String.ofList (arg.toList.drop (name.length + 1)))
    else none)

/-- Mark variables for something, and set those that come with a value. -/
def mark (command : String) (which : Variable → Bool) (change : Variable → Variable) : Builtin :=
  fun args => do
    let (given, names) ← givenOptions "p" args
    if !given.isEmpty || names.isEmpty then showVariables command which
    else
      names.forM fun arg => do
        let (name, value) := splitAssignment arg
        let known := (← get).binding? name
        match value, known with
        | none, some v => modify fun s => s.putBinding name (some (change v))
        | _, _ =>
          checkName name
          if let some value := value then assign name value
          modify fun s =>
            s.putBinding name (some (change ((s.binding? name).getD ⟨none, false, false⟩)))
    pure 0

/-- Make variables of a function its own. -/
def makeLocal : Builtin := fun args => do
  if (← get).frames.isEmpty then fail "not in a function"
  args.forM fun arg => do
    if arg = "-" then
      modify fun s =>
        let kept := Kept.options s.options
        { s with frames := match s.frames with
          | frame :: rest => (kept :: frame) :: rest
          | [] => [] }
    else
      let (name, value) := splitAssignment arg
      let before := (← get).frames
      if (before.head?.getD []).any fun
        | .binding other _ => other = name
        | .options _ => false then pure ()
      else keepVariable name
      match value with
      | some value =>
        checkName name
        assign name value
      | none =>
        if ((← get).binding? name).isNone then
          checkName name
          modify fun s => s.putBinding name (some ⟨none, false, false⟩)
  pure 0

/-- Remove variables or functions. -/
def unset : Builtin := fun args => do
  let (given, names) ← givenOptions "vf" args
  names.forM fun name => do
    if (given.getLast?.map Prod.fst) = some 'f' then
      modify fun s => { s with functions := s.functions.filter (·.1 ≠ name) }
    else
      checkName name
      forget name
  pure 0

/-- Read a line up to its end, in which a backslash may quote characters: the parts of the line, how
many characters it takes, and whether it has an end. Each step takes a character, so `fuel` is the
length of the text. -/
def readLineWithin (raw : Bool) : Nat → List Char → List Bit → List Char → Nat →
    List Bit × Nat × Bool
  | 0, _, bits, taken, count => (finish bits taken, count, false)
  | _ + 1, [], bits, taken, count => (finish bits taken, count, false)
  | fuel + 1, c :: rest, bits, taken, count =>
    if c = '\n' then (finish bits taken, count + 1, true)
    else if c = '\x00' then readLineWithin raw fuel rest bits taken (count + 1)
    else if c = '\\' && !raw then
      match rest with
      | [] => (finish bits taken, count + 1, false)
      | '\n' :: rest => readLineWithin raw fuel rest (loose bits taken) [] (count + 2)
      | quoted :: rest =>
        readLineWithin raw fuel rest (.fixed true (String.singleton quoted) :: loose bits taken) []
          (count + 2)
    else readLineWithin raw fuel rest bits (c :: taken) (count + 1)
where
  /-- Add the characters that are not quoted, which were taken last first. -/
  loose (bits : List Bit) (taken : List Char) : List Bit :=
    .loose [String.ofList taken.reverse] :: bits
  /-- All parts, the first one first. -/
  finish (bits : List Bit) (taken : List Char) : List Bit := (loose bits taken).reverse

/-- Read a line into variables; the last takes what is left. -/
def read : Builtin := fun args => do
  let (given, names) ← givenOptions "p:r" args
  if names.isEmpty then fail "arg count"
  let raw := given.any fun (letter, _) => letter = 'r'
  if ((← get).streams.lookup 0).isNone then
    names.forM fun name => do
      checkName name
      assign name ""
    pure 1
  else
    let text ← pending 0
    let (bits, count, ended) := readLineWithin raw (text.length + 1) text [] [] 0
    advance 0 count
    let fields := (Fields.split (← get).separators (some names.length) bits).map Mark.text
    names.zipIdx.forM fun (name, index) => do
      checkName name
      assign name (fields[index]?.getD "")
    pure (if ended then 0 else 1)

/-- Say that `getopts` has found something. -/
def foundOption (name : String) (letter : Char) (value : Option String) (index : Nat)
    (offset : Option Nat) (done : Bool) : Act Nat := do
  match value with
  | some value => assign "OPTARG" value
  | none => pure ()
  assign "OPTIND" (toString index)
  checkName name
  assign name (String.singleton letter)
  modify fun s => { s with optionIndex := index, optionOffset := offset }
  pure (if done then 1 else 0)

/-- Look at the options of some arguments one by one. -/
def getopts : Builtin := fun args => do
  let (_, args) ← givenOptions "" args
  match args with
  | letters :: name :: rest =>
    let s ← get
    let all := if rest.isEmpty then s.arguments else rest
    let (index, offset) :=
      if all.length + 1 < s.optionIndex then (1, none) else (s.optionIndex, s.optionOffset)
    let before := (all[index - 2]?.getD "").toList
    let inside : List Char :=
      match offset with
      | some offset => if 1 < index then before.drop offset else []
      | none => []
    let quiet := letters.toList.head? = some ':'
    let start : Option (List Char × Nat) :=
      if !inside.isEmpty then some (inside, index)
      else
        match (all[index - 1]?.getD "").toList with
        | ['-', '-'] => none
        | '-' :: c :: more => some (c :: more, index + 1)
        | _ => none
    match start with
    | some (c :: more, next) =>
      let offsetOf (more : List Char) : Option Nat :=
        some ((all[next - 2]?.getD "").length - more.length)
      let known := (letters.toList.dropWhile (· ≠ c))
      if known.isEmpty || c = ':' then
        if quiet then foundOption name '?' (some (String.singleton c)) next (offsetOf more) false
        else
          blame ("Illegal option -" ++ String.singleton c)
          forget "OPTARG"
          foundOption name '?' none next (offsetOf more) false
      else if known.tail.head? = some ':' then
        match more, all[next - 1]? with
        | [], none =>
          if quiet then foundOption name ':' (some (String.singleton c)) next (offsetOf []) false
          else
            blame ("No arg for -" ++ String.singleton c ++ " option")
            forget "OPTARG"
            foundOption name '?' none next (offsetOf []) false
        | [], some value => foundOption name c (some value) (next + 1) none false
        | more, _ => foundOption name c (some (String.ofList more)) next none false
      else foundOption name c (some "") next (offsetOf more) false
    | _ =>
      let next := if (all[index - 1]?) = some "--" && inside.isEmpty then index + 1 else index
      foundOption name '?' none next none true
  | _ => fail "Usage: getopts optstring var [arg...]"

/-! ## Arguments and options -/

/-- Drop arguments from the front. -/
def shift : Builtin := fun args => do
  let count ← match args with
    | arg :: _ => natural arg
    | [] => pure 1
  if (← get).arguments.length < count then fail "can't shift that many"
  modify fun s => { s with arguments := s.arguments.drop count }
  pure 0

/-- Switch an option by its letter. -/
def switchLetter (on : Bool) (letter : Char) : Act Unit :=
  if letter.isAlpha && (optionTable.map Prod.fst).contains letter then
    modify fun s => s.switch letter on
  else fail ("Illegal option -" ++ String.singleton letter)

/-- Show all options, for people or as commands. -/
def showOptions (on : Bool) : Act Unit := do
  let s ← get
  if on then
    sayLine "Current option settings"
    optionTable.forM fun (letter, name) =>
      sayLine (name ++ "".pushn ' ' (16 - name.length) ++ (if s.has letter then "on" else "off"))
  else
    optionTable.forM fun (letter, name) =>
      sayLine ("set " ++ (if s.has letter then "-o " else "+o ") ++ name)

/-- Switch the options that an argument lists; those after it may hold a name. -/
def switchLetters (on : Bool) : List Char → List String → Act (List String)
  | [], args => pure args
  | 'o' :: letters, args => do
    match args with
    | [] =>
      showOptions on
      switchLetters on letters []
    | name :: rest =>
      match optionTable.find? fun (_, other) => other = name with
      | some (letter, _) => modify fun s => s.switch letter on
      | none => fail ("Illegal option -o " ++ name)
      switchLetters on letters rest
  | letter :: letters, args => do
    switchLetter on letter
    switchLetters on letters args

/-- Set options and arguments. Each step takes an argument, so `fuel` is their number. -/
def configure : Nat → List String → Act Unit
  | 0, _ => pure ()
  | fuel + 1, args => do
    match args with
    | [] => pure ()
    | arg :: rest =>
      match arg.toList with
      | ['-'] =>
        modify fun s => (s.switch 'x' false).switch 'v' false
        setArguments rest
      | ['-', '-'] =>
        modify fun s => { s with arguments := rest }
      | '-' :: letters => do configure fuel (← switchLetters true letters rest)
      | '+' :: letters => do configure fuel (← switchLetters false letters rest)
      | _ => setArguments args
where
  /-- Take arguments if there are any. -/
  setArguments (args : List String) : Act Unit :=
    if args.isEmpty then pure () else modify fun s => { s with arguments := args }

/-- Set options and arguments, or show all variables. -/
def setCommand : Builtin := fun args => do
  if args.isEmpty then showVariables "" fun v => v.value.isSome
  else configure (args.length + 1) args
  pure 0

/-! ## Directories -/

/-- The path of a directory as a script has named it: each name goes down and `..` goes up. -/
def directoryPath (current path : String) : String :=
  let root : Bool := (path.toList.head? = some '/')
  let double := path.toList.take 2 = ['/', '/'] && path.toList[2]? ≠ some '/'
  let start := if root then [] else (Disk.names current).filter (!·.isEmpty)
  let names := (Disk.names path).foldl (fun names name =>
    if name.isEmpty || name = "." then names
    else if name = ".." then names.dropLast
    else names ++ [name]) start
  (if root && double then "//" else "/") ++ "/".intercalate names

/-- Change the directory. -/
def changeTo (physical : Bool) (path : String) : Act Bool := do
  let s ← get
  let named := directoryPath s.directory path
  match s.world.disk.directory s.cwd (if physical then path else named) with
  | .error _ => pure false
  | .ok place =>
    let before := s.directory
    let directory := if physical then (Place.path place).text else named
    set { s with cwd := place, directory := directory }
    assignAs "OLDPWD" before true
    assignAs "PWD" directory true
    pure true

/-- Whether the way to a directory is not looked for: it starts at the root or says where it starts.
-/
def isDirect (path : String) : Bool :=
  match (Disk.names path).head? with
  | some name => path.toList.head? = some '/' || name = "." || name = ".."
  | none => false

/-- Change the directory, perhaps to the one before, or to one below those of a search path. -/
def cd : Builtin := fun args => do
  let (given, args) ← givenOptions "LP" args
  let physical := given.getLast?.map Prod.fst = some 'P'
  let s ← get
  let (path, back) : String × Bool :=
    match args with
    | [] => ((s.valueOf? "HOME").getD "", false)
    | "-" :: _ => ((s.valueOf? "OLDPWD").getD "", true)
    | path :: _ => (path, false)
  let searched := if path.isEmpty then "." else path
  let found : String × Bool :=
    if isDirect path then (path, back)
    else
      let entries := Launch.directories ((s.valueOf? "CDPATH").getD "")
      let hits := entries.filterMap fun entry =>
        let place := (Path.join ⟨entry⟩ ⟨searched⟩).text
        if (s.world.disk.directory s.cwd place).toBool then some (place, back || !entry.isEmpty)
        else none
      hits.head?.getD (path, back)
  if !(← changeTo physical found.1) then fail ("can't cd to " ++ path)
  if found.2 then sayLine (← get).directory
  pure 0

/-- Say which directory is the current one. -/
def pwd : Builtin := fun args => do
  let (given, _) ← givenOptions "LP" args
  let s ← get
  let physical := given.getLast?.map Prod.fst = some 'P'
  sayLine (if physical then (Place.path s.cwd).text else s.directory)
  pure 0

/-! ## Signals and processes -/

/-- Say that a signal has ended a process, if that is worth a word. -/
def notice (ending : Ending) : Act Unit := do
  match ending with
  | .exited _ => pure ()
  | .killed number =>
    match Signal.notice? number with
    | some words =>
      let _ ← emit 2 (words ++ "\n")
    | none => pure ()

/-- Set what is done when signals come, or show it. -/
def trap : Builtin := fun args => do
  let (_, args) ← givenOptions "" args
  match args with
  | [] =>
    let s ← get
    (List.range 65).forM fun number =>
      match s.trap? number with
      | some action =>
        sayLine ("trap -- " ++ quote action ++ " " ++ (Signal.name? number).getD "")
      | none => pure ()
    pure 0
  | first :: rest =>
    let isSignal := first ≠ "" && first.toList.all Char.isDigit
      && (Signal.ofText? 0 first).isSome
    let (action, signals) : Option String × List String :=
      if rest.isEmpty || isSignal then (none, args)
      else (if first = "-" then none else some first, rest)
    setTraps action signals
where
  /-- Set the action for some signals. -/
  setTraps (action : Option String) : List String → Act Nat
    | [] => pure 0
    | signal :: rest => do
      match Signal.ofText? 0 signal with
      | none =>
        blame ("trap: " ++ signal ++ ": bad trap")
        pure 1
      | some number =>
        let added := (action.map fun text => (number, text)).toList
        modify fun s => { s with traps := added ++ s.traps.filter (·.1 ≠ number) }
        setTraps action rest

/-- How `kill` is used. -/
def killUsage : String :=
  "Usage: kill [-s sigspec | -signum | -sigspec] [pid | job]... or\nkill -l [exitstatus]"

/-- The processes that a signal reaches: the shell itself, those around it, and the ones in the
background. -/
def reachable (s : Shell) (process : Nat) : Bool :=
  process = s.processId || process = s.rootId || process = s.parentId
    || (s.jobs.lookup process).isSome

/-- Send a signal to processes. The status is zero if all are reached. -/
def sendTo (number : Nat) : List String → Nat → Act Nat
  | [], status => pure status
  | target :: rest, status => do
    if target.toList.head? = some '%' then fail ("No such job: " ++ target)
    let group := target.toList.head? = some '-'
    let process ← natural (if group then (target.drop 1).toString else target)
    let s ← get
    if group || !reachable s process then
      complain "No such process\n"
      sendTo number rest 1
    else
      if number ≠ 0 then
        match s.jobs.lookup process with
        | some job =>
          if s.world.clock < job.time && !Signal.passes number then
            let stopped : BackgroundJob := ⟨.killed number, s.world.clock⟩
            set { s with jobs := (process, stopped) :: s.jobs.filter (·.1 ≠ process) }
        | none => signal process number
      sendTo number rest status

/-- Send signals, or list them. -/
def kill : Builtin := fun args => do
  match args with
  | [] => fail killUsage
  | first :: rest =>
    let direct := if first.toList.head? = some '-' then Signal.ofText? 1 (first.drop 1).toString
      else none
    match direct with
    | some number => if rest.isEmpty then fail killUsage else sendTo number rest 0
    | none =>
      let (given, args) ← givenOptions "ls:" args
      let named := given.filterMap fun (letter, value) => if letter = 's' then value else none
      named.forM fun name =>
        if (Signal.ofText? 1 name).isSome then pure ()
        else fail ("invalid signal number or name: " ++ name)
      let number := named.getLast?.bind (Signal.ofText? 1)
      if given.any fun (letter, _) => letter = 'l' then
        if number.isSome then fail killUsage
        match args with
        | [] =>
          sayLine "0"
          Signal.names.forM sayLine
        | arg :: _ =>
          let n ← natural arg
          let n := if 128 < n then n - 128 else n
          match if n = 0 then none else Signal.name? n with
          | some name => sayLine name
          | none => fail ("invalid signal number or exit status: " ++ arg)
        pure 0
      else if args.isEmpty then fail killUsage
      else sendTo (number.getD 15) args 0

/-- Wait for one process in the background. -/
def waitFor (target : String) : Act Nat := do
  if target.toList.head? = some '%' then fail ("No such job: " ++ target)
  let process ← natural target
  let s ← get
  match s.jobs.lookup process with
  | none => pure 127
  | some job =>
    set { s with
      jobs := s.jobs.filter (·.1 ≠ process)
      world := s.world.waitUntil job.time }
    notice job.ending
    pure job.ending.status

/-- Wait for processes in the background. They have all ended, so only their status is left. -/
def wait : Builtin := fun args => do
  match (← givenOptions "" args).2 with
  | [] =>
    modify fun s => { s with
      jobs := []
      world := s.jobs.foldl (fun w (_, job) => w.waitUntil job.time) s.world }
    pure 0
  | targets => do pure ((← targets.mapM waitFor).getLast?.getD 0)

/-! ## Aliases and names -/

/-- Set aliases or show them. -/
def aliasCommand : Builtin := fun args => do
  let shown (name value : String) : String := name ++ "=" ++ quote value
  if args.isEmpty then
    (← get).aliases.forM fun (name, value) => sayLine (shown name value)
    pure 0
  else
    let statuses ← args.mapM fun arg => do
      match splitAssignment arg with
      | (name, some value) =>
        modify fun s => { s with aliases := (name, value) :: s.aliases.filter (·.1 ≠ name) }
        pure 0
      | (name, none) =>
        match (← get).aliases.lookup name with
        | some value =>
          sayLine (shown name value)
          pure 0
        | none =>
          blame ("alias: " ++ name ++ " not found")
          pure 1
    pure (statuses.foldl max 0)

/-- Remove aliases. -/
def unalias : Builtin := fun args => do
  let (given, names) ← givenOptions "a" args
  if !given.isEmpty then
    modify fun s => { s with aliases := [] }
    pure 0
  else
    let statuses ← names.mapM fun name => do
      let s ← get
      set { s with aliases := s.aliases.filter (·.1 ≠ name) }
      if (s.aliases.lookup name).isSome then pure 0
      else
        blame ("unalias: " ++ name ++ " not found")
        pure 1
    pure (statuses.foldl max 0)

/-- Show or set the mask for new files. -/
def umask : Builtin := fun args => do
  let (given, args) ← givenOptions "S" args
  let mask := (← get).mask
  let digit (n place : Nat) : Nat := n / place % 8
  match args with
  | [] =>
    if given.isEmpty then
      sayLine (String.ofList ('0' :: [64, 8, 1].flatMap fun place =>
        Nat.toDigits 8 (digit mask place)))
    else
      let rights (place : Nat) : String :=
        let n := 7 - digit mask place
        (if n / 4 % 2 = 1 then "r" else "") ++ (if n / 2 % 2 = 1 then "w" else "")
          ++ (if n % 2 = 1 then "x" else "")
      sayLine ("u=" ++ rights 64 ++ ",g=" ++ rights 8 ++ ",o=" ++ rights 1)
    pure 0
  | arg :: _ =>
    let chars := arg.toList
    if (chars.head?).any Char.isDigit then
      if !chars.all (Text.Numeral.isDigitIn 8) then fail ("Illegal number: " ++ arg)
      modify fun s => { s with mask := Text.Numeral.ofDigits 8 chars % 512 }
      pure 0
    else
      match symbolic? (511 - mask) arg with
      | some rights =>
        modify fun s => { s with mask := 511 - rights }
        pure 0
      | none => fail ("Illegal mode: " ++ arg)
where
  /-- Change rights by a list of changes in letters. -/
  symbolic? (rights : Nat) (text : String) : Option Nat :=
    (text.toList.splitOn ',').foldlM (fun rights clause =>
      let who := clause.takeWhile fun c => ['u', 'g', 'o', 'a'].contains c
      let all := who.isEmpty || who.contains 'a'
      let places := (if all || who.contains 'u' then [64] else [])
        ++ (if all || who.contains 'g' then [8] else [])
        ++ (if all || who.contains 'o' then [1] else [])
      match clause.drop who.length with
      | sign :: letters =>
        if ['+', '-', '='].contains sign && letters.all fun c => ['r', 'w', 'x'].contains c then
          let bits := (if letters.contains 'r' then 4 else 0)
            + (if letters.contains 'w' then 2 else 0) + (if letters.contains 'x' then 1 else 0)
          some (places.foldl (fun rights place =>
            let old := rights / place % 8
            let new := match sign with
              | '+' => Nat.lor old bits
              | '-' => old - Nat.land old bits
              | _ => bits
            rights - old * place + new * place) rights)
        else none
      | [] => if who.isEmpty then some rights else none) rights

/-- What a name means as a command. -/
inductive Meaning where
  | keyword
  | replaced (text : String)
  | function
  | special
  | builtin
  | program (path : String) (known : Bool)
  | nothing
  deriving Repr, DecidableEq

/-- The commands that a shell does itself, beside the special ones. -/
def regularNames : List String :=
  ["alias", "bg", "cd", "chdir", "command", "echo", "false", "fg", "getopts", "hash", "jobs",
    "kill", "printf", "pwd", "read", "test", "[", "true", "type", "ulimit", "umask", "unalias",
    "wait"]

/-- Look a name up. -/
def meaning (name : String) : Act Meaning := do
  let s ← get
  if Script.Token.keywords.contains name then pure .keyword
  else
    match s.aliases.lookup name with
    | some text => pure (.replaced text)
    | none =>
      if Script.specialCommands.contains name then pure .special
      else if (s.functions.lookup name).isSome then pure .function
      else if regularNames.contains name then pure .builtin
      else
        match Launch.path s.world.disk s.cwd s.searchPath name with
        | .ok path =>
          let known := (s.found.lookup name).isSome
          if !name.contains '/' && !known then
            set { s with found := (name, path) :: s.found }
          pure (.program path known)
        | .error _ => pure .nothing

/-- Say in full what a name means. -/
def describe (name : String) : Act Nat := do
  match ← meaning name with
  | .keyword => told "is a shell keyword"
  | .replaced text => told ("is an alias for " ++ text)
  | .function => told "is a shell function"
  | .special => told "is a special shell builtin"
  | .builtin => told "is a shell builtin"
  | .program path known =>
    told ((if known then "is a tracked alias for " else "is ") ++ path)
  | .nothing =>
    sayLine (name ++ ": not found")
    pure 127
where
  /-- Say something of the name. -/
  told (words : String) : Act Nat := do
    sayLine (name ++ " " ++ words)
    pure 0

/-- Say in short what a name means. -/
def locate (name : String) : Act Nat := do
  match ← meaning name with
  | .keyword | .function | .special | .builtin =>
    sayLine name
    pure 0
  | .replaced text =>
    sayLine ("alias " ++ name ++ "=" ++ quote text)
    pure 0
  | .program path _ =>
    sayLine path
    pure 0
  | .nothing => pure 127

/-- Say what names mean. -/
def typeOf : Builtin := fun args => do
  let statuses ← (← givenOptions "" args).2.mapM describe
  pure (statuses.foldl max 0)

/-- Look programs up, or show those that have been. -/
def hash : Builtin := fun args => do
  let (given, names) ← givenOptions "rv" args
  if given.any fun (letter, _) => letter = 'r' then modify fun s => { s with found := [] }
  if names.isEmpty && given.isEmpty then
    (← get).found.reverse.forM fun (_, path) => sayLine path
  let statuses ← names.mapM fun name => do
    match ← meaning name with
    | .nothing =>
      complain (name ++ ": not found")
      pure 1
    | _ => pure 0
  pure (statuses.foldl max 0)

/-- The commands that are regular or special and run no script, by name. -/
def builtin? : String → Option Builtin
  | ":" | "true" => some fun _ => pure 0
  | "false" => some fun _ => pure 1
  | "echo" => some echo
  | "printf" => some printf
  | "test" => some test
  | "[" => some bracket
  | "export" => some (mark "export" Variable.exported fun v => { v with exported := true })
  | "readonly" => some (mark "readonly" Variable.readonly fun v => { v with readonly := true })
  | "local" => some makeLocal
  | "unset" => some unset
  | "read" => some read
  | "getopts" => some getopts
  | "shift" => some shift
  | "set" => some setCommand
  | "cd" | "chdir" => some cd
  | "pwd" => some pwd
  | "trap" => some trap
  | "kill" => some kill
  | "wait" => some wait
  | "alias" => some aliasCommand
  | "unalias" => some unalias
  | "umask" => some umask
  | "type" => some typeOf
  | "hash" => some hash
  | "jobs" => some fun _ => pure 0
  | "fg" | "bg" => some fun _ => fail "job (null) not created under job control"
  | "ulimit" => some fun _ => do
    sayLine "unlimited"
    pure 0
  | "times" => some fun _ => do
    sayLine "0m0.000000s 0m0.000000s"
    sayLine "0m0.000000s 0m0.000000s"
    pure 0
  | _ => none

end CSharpBuild.Machine.Shell
