/-
The program that walks through directories and does something with what it finds there: an
expression of tests and actions is tried for each file.
-/
import CSharpBuild.Machine.Launching
import CSharpBuild.Machine.Pattern
import CSharpBuild.Machine.Tool.Files

namespace CSharpBuild.Machine.Launching.Find

open Tool

/-- Something that was found. -/
structure Found where
  path : String
  /-- The operand that it was found under. -/
  start : String
  place : Place
  node : Node
  depth : Nat
  /-- Whether there is nothing in it. -/
  isEmpty : Bool

/-- A test or an action. -/
inductive Expression where
  | test (holds : Found → Bool)
  | print (text : Found → String)
  | run (command : List String) (inDirectory : Bool)
  /-- Run a command later, for all that was found. -/
  | collect (command : List String)
  | delete
  | quit
  | prune
  | negated (inner : Expression)
  | both (first second : Expression)
  | either (first second : Expression)
  | sequence (first second : Expression)

/-- Whether an expression does something, so that what is found is not printed anyway. -/
def Expression.acts : Expression → Bool
  | .test _ | .prune => false
  | .print _ | .run .. | .collect _ | .delete | .quit => true
  | .negated inner => inner.acts
  | .both first second | .either first second | .sequence first second => first.acts || second.acts

/-- Whether an expression deletes, so that what is in a directory comes before it. -/
def Expression.deletes : Expression → Bool
  | .delete => true
  | .negated inner => inner.deletes
  | .both first second | .either first second | .sequence first second =>
    first.deletes || second.deletes
  | _ => false

/-! ## Reading -/

/-- The settings of a walk. -/
structure Settings where
  least : Nat
  most : Option Nat
  deepFirst : Bool
  follows : Bool

/-- What is being read. -/
structure Reading where
  args : List String
  settings : Settings

/-- A step of reading. -/
abbrev Step := StateT Reading (Except String)

/-- Take the argument of a predicate. -/
def argument (name : String) : Step String := do
  let s ← get
  match s.args with
  | arg :: rest =>
    set { s with args := rest }
    pure arg
  | [] => throw ("missing argument to \x60" ++ name ++ "'")

/-- A comparison with a number that may have a sign. -/
def comparison? (text : String) : Option (Nat → Bool) :=
  let rest := (text.drop 1).toString
  match text.toList.head? with
  | some '+' => rest.toNat?.map fun n value => n < value
  | some '-' => rest.toNat?.map fun n value => value < n
  | _ => text.toNat?.map fun n value => value = n

/-- The letter of a kind of file. -/
def kindLetter : Node → Char
  | .file .. | .program _ => 'f'
  | .directory => 'd'
  | .link _ => 'l'
  | .sink | .zeros | .stream _ => 'c'

/-- A test of a name by a pattern. -/
def nameTest (folded whole : Bool) (pattern : String) : Found → Bool := fun found =>
  let fold (text : String) : String := if folded then text.toLower else text
  let name := if whole then found.path else baseName found.path
  (Pattern.ofText (fold pattern)).covers (fold name).toList

/-- Write something that was found by a format. -/
def formatted : List Char → Found → String
  | '%' :: c :: rest, found =>
    let value := match c with
      | 'p' => found.path
      | 'f' => baseName found.path
      | 'h' => directoryName found.path
      | 'P' => ((found.path.drop found.start.length).toString.dropWhile (· = '/')).toString
      | 'd' => toString found.depth
      | 'y' => String.singleton (kindLetter found.node)
      | 's' => toString (nodeSize found.node)
      | 'l' => (match found.node with
        | .link target => target
        | _ => "")
      | 'm' => describeBy "" found.node "%a".toList
      | 'u' | 'g' => "root"
      | '%' => "%"
      | c => "%" ++ String.singleton c
    value ++ formatted rest found
  | '\\' :: c :: rest, found =>
    let char := if c = '0' then '\x00' else (Escape.letter? false c).getD c
    String.singleton char ++ formatted rest found
  | c :: rest, found => String.singleton c ++ formatted rest found
  | [], _ => ""

/-- Read the words of a command up to its end, which is `;` or a `+` behind the mark. -/
def commandWords (name : String) : List String → List String →
    Except String (List String × Bool × List String)
  | [], _ => .error ("missing argument to \x60" ++ name ++ "'")
  | ";" :: rest, words =>
    if words.isEmpty then .error ("invalid argument \x60;' to \x60" ++ name ++ "'")
    else .ok (words.reverse, false, rest)
  | "+" :: rest, "\x7b\x7d" :: words => .ok (words.reverse, true, rest)
  | word :: rest, words => commandWords name rest (word :: words)

/-- Change the settings. -/
def change (how : Settings → Settings) : Step Expression := do
  modify fun s => { s with settings := how s.settings }
  pure (.test fun _ => true)

/-- Read a predicate by its name. -/
def predicate (d : Disk) (cwd : Place) (name : String) : Step Expression := do
  match name with
  | "-name" => pure (.test (nameTest false false (← argument name)))
  | "-iname" => pure (.test (nameTest true false (← argument name)))
  | "-path" | "-wholename" => pure (.test (nameTest false true (← argument name)))
  | "-ipath" => pure (.test (nameTest true true (← argument name)))
  | "-type" | "-xtype" =>
    let kinds := ((← argument name).toList.splitOn ',').flatten
    match kinds.find? fun c => !"bcdpflsD".toList.contains c with
    | some c => throw ("Unknown argument to -type: " ++ String.singleton c)
    | none => pure (.test fun found => kinds.contains (kindLetter found.node))
  | "-empty" => pure (.test fun found => found.isEmpty)
  | "-executable" =>
    pure (.test fun found => found.node = .directory || found.node.isExecutable)
  | "-readable" | "-writable" | "-true" | "-noleaf" | "-mount" | "-xdev" =>
    pure (.test fun _ => true)
  | "-false" => pure (.test fun _ => false)
  | "-print" => pure (.print fun found => found.path ++ "\n")
  | "-print0" => pure (.print fun found => found.path ++ "\x00")
  | "-printf" =>
    let format := (← argument name).toList
    pure (.print (formatted format))
  | "-delete" => pure .delete
  | "-quit" => pure .quit
  | "-prune" => pure .prune
  | "-depth" | "-d" => change fun s => { s with deepFirst := true }
  | "-follow" => change fun s => { s with follows := true }
  | "-maxdepth" | "-mindepth" =>
    let text ← argument name
    match text.toNat? with
    | some n =>
      change fun s => if name = "-maxdepth" then { s with most := some n } else { s with least := n }
    | none =>
      throw ("Expected a positive decimal integer argument to " ++ name ++ ", but got "
        ++ quoted text)
  | "-size" =>
    let text ← argument name
    let unit := (text.toList.getLast?.filter fun c => !c.isDigit).getD 'b'
    let digits := if text.toList.getLast?.any Char.isDigit then text else (text.dropEnd 1).toString
    let size := match unit with
      | 'c' => 1
      | 'w' => 2
      | 'k' => 1024
      | 'M' => 1048576
      | 'G' => 1073741824
      | _ => 512
    match comparison? digits with
    | some holds => pure (.test fun found => holds ((nodeSize found.node + size - 1) / size))
    | none => throw ("invalid argument \x60" ++ text ++ "' to \x60-size'")
  | "-perm" =>
    let mode := ((← argument name).toList.dropWhile fun c => c = '-' || c = '/')
    pure (.test fun found => describeBy "" found.node "%a".toList = String.ofList mode)
  | "-samefile" =>
    let path ← argument name
    match entry d cwd path with
    | .ok (place, _) => pure (.test fun found => found.place = place)
    | .error trouble => throw (quoted path ++ ": " ++ trouble.words)
  | "-newer" | "-user" | "-group" | "-mtime" | "-mmin" | "-links" =>
    let _ ← argument name
    pure (.test fun _ => true)
  | "-exec" | "-execdir" | "-ok" =>
    let s ← get
    let (words, collects, rest) ← liftM (commandWords name s.args [])
    set { s with args := rest }
    pure (if collects then .collect words else .run words (name = "-execdir"))
  | name => throw ("unknown predicate \x60" ++ name ++ "'")

mutual

/-- Read expressions one after the other. Each step takes an argument or goes one level down, so
`fuel` is a multiple of the number of arguments. -/
def commaList (d : Disk) (cwd : Place) : Nat → Step Expression
  | 0 => throw "too many levels"
  | fuel + 1 => do
    let first ← alternatives d cwd fuel
    let s ← get
    match s.args with
    | "," :: rest =>
      set { s with args := rest }
      pure (.sequence first (← commaList d cwd fuel))
    | _ => pure first

/-- Read expressions of which one is enough. -/
def alternatives (d : Disk) (cwd : Place) : Nat → Step Expression
  | 0 => throw "too many levels"
  | fuel + 1 => do
    let first ← conjunction d cwd fuel
    let s ← get
    match s.args with
    | "-o" :: rest | "-or" :: rest =>
      set { s with args := rest }
      pure (.either first (← alternatives d cwd fuel))
    | _ => pure first

/-- Read expressions that must all hold. -/
def conjunction (d : Disk) (cwd : Place) : Nat → Step Expression
  | 0 => throw "too many levels"
  | fuel + 1 => do
    let first ← single d cwd fuel
    let s ← get
    match s.args with
    | "-a" :: rest | "-and" :: rest =>
      set { s with args := rest }
      pure (.both first (← conjunction d cwd fuel))
    | [] | "-o" :: _ | "-or" :: _ | ")" :: _ | "," :: _ => pure first
    | _ => pure (.both first (← conjunction d cwd fuel))

/-- Read one expression. -/
def single (d : Disk) (cwd : Place) : Nat → Step Expression
  | 0 => throw "too many levels"
  | fuel + 1 => do
    let s ← get
    match s.args with
    | [] => throw "invalid expression; expected to find an expression but found nothing"
    | name :: rest =>
      set { s with args := rest }
      match name with
      | "!" | "-not" => pure (.negated (← single d cwd fuel))
      | "(" =>
        let inner ← commaList d cwd fuel
        let s ← get
        match s.args with
        | ")" :: rest =>
          set { s with args := rest }
          pure inner
        | _ =>
          throw ("invalid expression; I was expecting to find a ')' somewhere but did not see one.")
      | "-o" | "-a" | "-or" | "-and" | "," =>
        throw ("invalid expression; you have used a binary operator '" ++ name
          ++ "' with nothing before it.")
      | ")" => throw "invalid expression; you have too many ')'"
      | name => predicate d cwd name

end

/-! ## Walking -/

/-- What stands at a place, and whether there is nothing in it. -/
def lookAt (d : Disk) (start path : String) (place : Place) (node : Node) (depth : Nat) : Found :=
  let isEmpty := match node with
    | .directory => (d.entries place).isEmpty
    | .file content _ => content.isEmpty
    | _ => false
  ⟨path, start, place, node, depth, isEmpty⟩

/-- All that is at a place and below it, each before what is in it; `fuel` bounds the depth. -/
def walk (d : Disk) (s : Settings) (start : String) : Nat → String → Place → Node → Nat → List Found
  | 0, _, _, _, _ => []
  | fuel + 1, path, place, node, depth =>
    let here := lookAt d start path place node depth
    let goes := node = .directory && s.most.all (depth < ·)
    let inner := if !goes then [] else
      (d.entries place).flatMap fun name =>
        let place := place ++ [name]
        let node := (d.get? place).getD .directory
        walk d s start fuel (below path name) place node (depth + 1)
    if s.deepFirst then inner ++ [here] else here :: inner

/-- What happens on the way through the files. -/
structure Passage where
  disk : Disk
  status : Nat
  /-- Commands that are run in the end, each with what was found for it, the last one first. -/
  collected : List (List String × List String)
  /-- Directories whose content is passed over. -/
  pruned : List Place
  stopped : Bool

/-- The words of a command with a path in place of the mark. -/
def filledIn (command : List String) (path : String) : List String :=
  command.map fun word => word.replace "\x7b\x7d" path

/-- Try an expression for something that was found, and go on with its answer. -/
def attempt (c : Call) (found : Found) : Expression → Passage → (Bool → Passage → Course) → Course
  | .test holds, p, next => next (holds found) p
  | .print text, p, next => .write 1 (text found) (next true p)
  | .run command inDirectory, p, next =>
    let path := if inDirectory then "./" ++ baseName found.path else found.path
    let command := filledIn command path
    .run command fun
      | .ok (.exited 0) => next true p
      | .ok _ => next false p
      | .error refusal =>
        .write 2 (c.name ++ ": " ++ quoted (command.headD "") ++ ": " ++ Course.reason refusal ++ "\n")
          (next false p)
  | .collect command, p, next =>
    let before := (p.collected.lookup command).getD []
    let others := p.collected.filter fun entry => entry.1 ≠ command
    next true { p with collected := (command, found.path :: before) :: others }
  | .delete, p, next =>
    if found.path = "." then next true p
    else if found.node = .directory && !(p.disk.entries found.place).isEmpty then
      .write 2 (c.name ++ ": cannot delete " ++ quoted found.path ++ ": " ++ Trouble.notEmpty.words
        ++ "\n") (next false { p with status := 1 })
    else next true { p with disk := p.disk.erase found.place }
  | .quit, p, next => next true { p with stopped := true }
  | .prune, p, next => next true { p with pruned := found.place :: p.pruned }
  | .negated inner, p, next => attempt c found inner p fun holds p => next (!holds) p
  | .both first second, p, next =>
    attempt c found first p fun holds p => if holds then attempt c found second p next else next false p
  | .either first second, p, next =>
    attempt c found first p fun holds p => if holds then next true p else attempt c found second p next
  | .sequence first second, p, next =>
    attempt c found first p fun _ p => attempt c found second p next

/-- Run the commands that were kept for the end. -/
def runCollected (c : Call) (status : Nat) : List (List String × List String) → Course
  | [] => .done status
  | (command, paths) :: rest =>
    .run (command ++ paths.reverse) fun
      | .ok (.exited 0) => runCollected c status rest
      | .ok _ => runCollected c 1 rest
      | .error refusal =>
        .write 2 (c.name ++ ": " ++ quoted (command.headD "") ++ ": " ++ Course.reason refusal ++ "\n")
          (runCollected c 1 rest)

/-- Try an expression for all that was found, one after the other. What could not be found is
complained about in its turn. -/
def passage (c : Call) (e : Expression) (least : Nat) (finish : Passage → Course) :
    List (Except String Found) → Passage → Course
  | [], p => finish p
  | .error text :: rest, p =>
    .write 2 (c.name ++ ": " ++ text ++ "\n") (passage c e least finish rest { p with status := 1 })
  | .ok found :: rest, p =>
    if p.stopped then finish p
    else
      let isPruned := p.pruned.any fun place => place.isPrefixOf found.place && place ≠ found.place
      if isPruned || found.depth < least then passage c e least finish rest p
      else attempt c found e p fun _ p => passage c e least finish rest p

/-- The disk that is left when all that an expression deletes has been deleted. The answers of
commands are not waited for. -/
def remaining (e : Expression) (found : List (Except String Found)) (least : Nat)
    (p : Passage) : Disk :=
  (found.foldl (fun (p : Passage) item =>
    match item with
    | .error _ => p
    | .ok found =>
      if p.stopped || found.depth < least then p else step found e p |>.2) p).disk
where
  /-- Whether an expression holds, and what it changes. -/
  step (found : Found) : Expression → Passage → Bool × Passage
    | .test holds, p => (holds found, p)
    | .print _, p | .run .., p | .collect _, p | .prune, p => (true, p)
    | .quit, p => (true, { p with stopped := true })
    | .delete, p =>
      if found.path = "." then (true, p)
      else if found.node = .directory && !(p.disk.entries found.place).isEmpty then (false, p)
      else (true, { p with disk := p.disk.erase found.place })
    | .negated inner, p =>
      let (holds, p) := step found inner p
      (!holds, p)
    | .both first second, p =>
      let (holds, p) := step found first p
      if holds then step found second p else (false, p)
    | .either first second, p =>
      let (holds, p) := step found first p
      if holds then (true, p) else step found second p
    | .sequence first second, p => step found second (step found first p).2

/-- Walk through directories. -/
def find (c : Call) : Launching :=
  let isOption (arg : String) : Bool := ["-L", "-P", "-H"].contains arg
  let (front, args) := c.args.span isOption
  let isExpression (arg : String) : Bool :=
    (Text.startsWith arg "-" && 1 < arg.length) || arg = "(" || arg = "!"
  let (starts, args) := args.span fun arg => !isExpression arg
  let starts := if starts.isEmpty then ["."] else starts
  let settings : Settings := ⟨0, none, false, front.contains "-L"⟩
  let read : Except String (Expression × Reading) :=
    if args.isEmpty then .ok (.print fun found => found.path ++ "\n", ⟨[], settings⟩)
    else do
      let (e, s) ← (commaList c.disk c.cwd (8 * args.length + 8)).run ⟨args, settings⟩
      match s.args with
      | [] => .ok (e, s)
      | ")" :: _ => .error "invalid expression; you have too many ')'"
      | arg :: _ => .error ("unknown predicate \x60" ++ arg ++ "'")
  match read with
  | .error text => ofEffect c (refuses 1 text c)
  | .ok (e, s) =>
    let e := if e.acts then e else .both e (.print fun found => found.path ++ "\n")
    let settings := { s.settings with deepFirst := s.settings.deepFirst || e.deletes }
    let found := starts.flatMap fun path =>
      let looked := if settings.follows then
          (do
            let place ← c.disk.locate ⟨true, false⟩ c.cwd path
            .ok (place, (c.disk.get? place).getD .directory))
        else entry c.disk c.cwd path
      match looked with
      | .ok (place, node) =>
        (walk c.disk settings path (c.disk.nodes.length + 2) path place node 0).map .ok
      | .error trouble => [.error (quoted path ++ ": " ++ trouble.words)]
    let p : Passage := ⟨c.disk, 0, [], [], false⟩
    let least := settings.least
    { become c [] (fun _ => "") with
      course := passage c e least (fun p => runCollected c p.status p.collected.reverse) found p
      disk := remaining e found least p
      replaced := false }

end CSharpBuild.Machine.Launching.Find
