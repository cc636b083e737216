/-
The stream editor: it reads line after line, runs its script for each, and writes what has become of
the line.

`Editing` is what the editor knows between two commands. A command says where the script goes on
(`Way`); the script ends with its last command, and then the next line is read.
-/
import CSharpBuild.Machine.Tool.Sed.Script

namespace CSharpBuild.Machine.Tool.Sed

/-- A line of the input: where it comes from, and whether a newline ends it. -/
structure Line where
  text : List Char
  ended : Bool
  file : String
  deriving Repr, DecidableEq

/-- What has been written somewhere, the last piece first, and whether a newline is missing at its
end. -/
structure Output where
  pieces : List (List Char)
  unended : Bool

/-- Whether a range of lines has begun, and where it ends if that is a number. -/
inductive Span where
  | outside
  | inside (last : Option Nat)
  deriving Repr, DecidableEq

/-- What the editor knows. -/
structure Editing where
  space : List Char
  held : List Char
  /-- The line that was read last. -/
  line : Line
  number : Nat
  input : List Line
  /-- Texts that come behind the line, the last one first. -/
  waiting : List (List Char × Bool)
  replaced : Bool
  spans : Array Span
  lastNeedle : Option Needle
  /-- What was written, by the names of files; the empty name is that of the output. -/
  outputs : List (String × Output)
  /-- Files of which lines are read, with the lines that are left. -/
  readers : List (String × List Line)

/-- How the editor goes about it. -/
structure Setting where
  script : Script
  quiet : Bool
  ending : Char
  /-- How wide a line is that is shown. -/
  width : Nat
  call : Call

/-- Write a text somewhere. -/
def Editing.write (e : Editing) (target : String) (text : List Char) (ended : Bool) (ending : Char) :
    Editing :=
  let o := (e.outputs.lookup target).getD ⟨[], false⟩
  let pieces := if o.unended then [ending] :: o.pieces else o.pieces
  let pieces := text :: pieces
  let o : Output := ⟨if ended then [ending] :: pieces else pieces, !ended⟩
  { e with outputs := (target, o) :: e.outputs.filter fun x => x.1 ≠ target }

/-- Where the name of a file leads: to the output if that is meant. -/
def target (path : String) : String := if path = "/dev/stdout" then "" else path

/-- Write a text that has its own newlines; none is missing at its end. -/
def Editing.writeText (e : Editing) (s : Setting) (text : List Char) : Editing :=
  if text.isEmpty then e
  else
    let e := e.write "" text false s.ending
    { e with outputs := e.outputs.map fun (path, o) =>
      (path, if path.isEmpty then { o with unended := false } else o) }

/-- Write the line as it is now. -/
def Editing.writeSpace (e : Editing) (s : Setting) (path : String) (text : List Char) : Editing :=
  e.write path text e.line.ended s.ending

/-- Write what comes behind the line. -/
def Editing.flush (e : Editing) (s : Setting) : Editing :=
  let e' := e.waiting.reverse.foldl (fun e (text, isLine) =>
    if isLine then e.write "" text true s.ending else e.writeText s text) e
  { e' with waiting := [] }

/-- Read the next line into the editor, perhaps behind what is there; `none` if there is none. -/
def Editing.read (e : Editing) (s : Setting) (appends : Bool) : Option Editing :=
  match e.input with
  | [] => none
  | line :: rest =>
    let e := e.flush s
    some { e with
      space := if appends then e.space ++ s.ending :: line.text else line.text
      line := line, number := e.number + 1, input := rest
      replaced := e.replaced }

/-! ## Addresses -/

/-- The expression that is looked for, and how. -/
def Editing.needle? (e : Editing) (n : Needle) : Option Needle :=
  match n.regex with
  | some _ => some n
  | none => e.lastNeedle

/-- Look for an expression from a place on. -/
def find (n : Needle) (t : Regex.Subject) (position : Nat) : Option Regex.Match :=
  match n.regex with
  | some r => Regex.search t r position
  | none => none

/-- What is said when there is no expression yet. -/
def noNeedle : String := "-e expression #1, char 0: no previous regular expression"

/-- Whether an address is that of the line. -/
def Editing.isAt (e : Editing) : Address → Except String (Bool × Editing)
  | .number n => .ok (e.number = n, e)
  | .every first step => .ok (first ≤ e.number && (e.number - first) % step = 0, e)
  | .last => .ok (e.input.isEmpty, e)
  | .matching n =>
    match e.needle? n with
    | none => .error noNeedle
    | some n =>
      let t := Regex.Subject.ofText n.folded n.byLine e.space
      .ok ((find n t 0).isSome, { e with lastNeedle := some n })

/-- Whether a range begins with the line, and whether it goes on behind it. -/
def Editing.beginRange (e : Editing) (index : Nat) (last : RangeEnd) : Editing :=
  let from_ (span : Span) : Editing := { e with spans := e.spans.setIfInBounds index span }
  let until_ (n : Nat) : Editing := if n ≤ e.number then e else from_ (.inside (some n))
  match last with
  | .at_ (.number n) => until_ n
  | .at_ _ => from_ (.inside none)
  | .after count => until_ (e.number + count)
  | .multiple count =>
    if count = 0 then e else until_ (e.number + count - e.number % count)

/-- Whether a command is for the line, not counting a negation. -/
def Editing.selects (e : Editing) (index : Nat) (s : Selection) : Except String (Bool × Editing) := do
  match s.first, s.last with
  | none, _ => .ok (true, e)
  | some first, none => e.isAt first
  | some first, some last =>
    match e.spans[index]?.getD .outside with
    | .inside (some n) =>
      let e := if n ≤ e.number then { e with spans := e.spans.setIfInBounds index .outside } else e
      if e.number ≤ n then .ok (true, e)
      else
        let (starts, e) ← e.isAt first
        .ok (starts, if starts then e.beginRange index last else e)
    | .inside none =>
      let stop := match last with
        | .at_ address => address
        | _ => .last
      let (ends, e) ← e.isAt stop
      .ok (true, if ends then { e with spans := e.spans.setIfInBounds index .outside } else e)
    | .outside =>
      let (starts, e) ← e.isAt first
      .ok (starts, if starts then e.beginRange index last else e)

/-! ## Replacements -/

/-- How letters are being changed: for good, and for the next one only. -/
structure Casing where
  always : Option Case
  next : Option Case

/-- Change the letters of a text. -/
def Casing.apply (k : Casing) (text : List Char) : List Char × Casing :=
  let all (text : List Char) : List Char :=
    match k.always with
    | some .upper => text.map Char.toUpper
    | some .lower => text.map Char.toLower
    | _ => text
  match text, k.next with
  | [], _ => ([], k)
  | c :: rest, some .upperNext => (c.toUpper :: all rest, { k with next := none })
  | c :: rest, some .lowerNext => (c.toLower :: all rest, { k with next := none })
  | text, _ => (all text, k)

/-- What replaces a match. -/
def replacementText (t : Regex.Subject) (m : Regex.Match) : List Replacement → Casing → List Char
  | [], _ => []
  | .text text :: rest, k =>
    let (text, k) := k.apply text
    text ++ replacementText t m rest k
  | .group n :: rest, k =>
    let (text, k) := k.apply (m.group t n)
    text ++ replacementText t m rest k
  | .case change :: rest, k =>
    let k : Casing := match change with
      | .upper => ⟨some .upper, none⟩
      | .lower => ⟨some .lower, none⟩
      | .asIs => ⟨none, none⟩
      | next => { k with next := some next }
    replacementText t m rest k

/-- Replace matches from a place on: what has become of the rest, and whether anything was replaced.
`after` is where the last match ended. Each step goes on in the text, so `fuel` is its length. -/
def replaceFrom (n : Needle) (s : Substitution) (t : Regex.Subject) :
    Nat → Nat → Option Nat → Nat → List Char × Bool
  | 0, position, _, _ => (t.part position t.chars.size, false)
  | fuel + 1, position, after, count =>
    if t.chars.size < position then ([], false)
    else
      match find n t position with
      | none => (t.part position t.chars.size, false)
      | some m =>
        let before := t.part position m.start
        let skipOne (more : List Char × Bool) : List Char × Bool :=
          (before ++ t.part m.start (m.start + 1) ++ more.1, more.2)
        if m.start = m.stop && after = some m.start then
          skipOne (replaceFrom n s t fuel (m.start + 1) none count)
        else if count + 1 < s.number then
          if m.start = m.stop then
            skipOne (replaceFrom n s t fuel (m.stop + 1) none (count + 1))
          else
            let (more, replaced) := replaceFrom n s t fuel m.stop (some m.stop) (count + 1)
            (before ++ t.part m.start m.stop ++ more, replaced)
        else
          let text := replacementText t m s.replacement ⟨none, none⟩
          if !s.all then (before ++ text ++ t.part m.stop t.chars.size, true)
          else if m.start = m.stop then
            let (more, _) := replaceFrom n s t fuel (m.stop + 1) none (count + 1)
            (before ++ text ++ t.part m.stop (m.stop + 1) ++ more, true)
          else
            let (more, _) := replaceFrom n s t fuel m.stop (some m.stop) (count + 1)
            (before ++ text ++ more, true)

/-! ## Commands -/

/-- How a line is shown so that nothing in it stays hidden. -/
def shownLine (width : Nat) (text : List Char) : List Char :=
  let write (c : Char) : List Char :=
    if c = '\\' then ['\\', '\\']
    else if isPrintable c then [c]
    else '\\' :: escapeOf c
  let room := width - 1
  let step (state : List Char × Nat) (c : Char) : List Char × Nat :=
    let piece := write c
    if 0 < width && room < state.2 + piece.length then
      (piece.reverse ++ '\n' :: '\\' :: state.1, piece.length)
    else (piece.reverse ++ state.1, state.2 + piece.length)
  ('$' :: (text.foldl step ([], 0)).1).reverse

/-- Where a script goes on. -/
inductive Way where
  | next
  | jump (index : Nat)
  /-- The script has come to its end for this line; the line is written. -/
  | finish
  /-- The line is not written. -/
  | drop
  /-- The line is not written, and what is left of it is the next one. -/
  | again
  | quit (prints : Bool) (status : Nat)

/-- Where the commands behind a block begin; `depth` counts the blocks that are open. -/
def blockEnd : List Command → Nat → Nat → Nat
  | [], index, _ => index
  | c :: rest, index, depth =>
    match c.action with
    | .open_ => blockEnd rest (index + 1) (depth + 1)
    | .close => if depth = 0 then index + 1 else blockEnd rest (index + 1) (depth - 1)
    | _ => blockEnd rest (index + 1) depth

/-- The lines of a file. -/
def linesIn (ending : Char) (file : String) (text : List Char) : List Line :=
  let all := text.splitOn ending
  match all.getLast? with
  | some [] => all.dropLast.map fun line => ⟨line, true, file⟩
  | some last => all.dropLast.map (fun line => ⟨line, true, file⟩) ++ [⟨last, false, file⟩]
  | none => []

/-- Run a command that is for the line. -/
def run (s : Setting) (e : Editing) (index : Nat) (selection : Selection) :
    Action → Except String (Way × Editing)
  | .open_ | .close | .nothing => .ok (.next, e)
  | .append text => .ok (.next, { e with waiting := (text, false) :: e.waiting })
  | .insert text => .ok (.next, e.writeText s text)
  | .change text =>
    let isInside := match e.spans[index]?.getD .outside with
      | .inside _ => selection.last.isSome && !selection.negated
      | .outside => false
    .ok (.drop, if isInside then e else e.writeText s text)
  | .branch label => .ok (jump label, e)
  | .branchIf replaced label =>
    if e.replaced = replaced then
      .ok (jump label, { e with replaced := false })
    else .ok (.next, { e with replaced := false })
  | .delete => .ok (.drop, e)
  | .deleteLine =>
    if e.space.contains s.ending then
      .ok (.again, { e with space := (e.space.dropWhile (· ≠ s.ending)).drop 1 })
    else .ok (.drop, e)
  | .getHold => .ok (.next, { e with space := e.held })
  | .appendHold => .ok (.next, { e with space := e.space ++ s.ending :: e.held })
  | .hold => .ok (.next, { e with held := e.space })
  | .holdMore => .ok (.next, { e with held := e.held ++ s.ending :: e.space })
  | .exchange => .ok (.next, { e with space := e.held, held := e.space })
  | .show width =>
    .ok (.next, e.write "" (shownLine (width.getD s.width) e.space) true '\n')
  | .number => .ok (.next, e.write "" (toString e.number).toList true '\n')
  | .fileName => .ok (.next, e.write "" e.line.file.toList true '\n')
  | .next =>
    if e.input.isEmpty then .ok (.finish, e)
    else
      let e := if s.quiet then e else e.writeSpace s "" e.space
      .ok (.next, (e.read s false).getD e)
  | .appendNext =>
    match e.read s true with
    | some e => .ok (.next, e)
    | none => .ok (.finish, e)
  | .print => .ok (.next, e.writeSpace s "" e.space)
  | .printLine => .ok (.next, e.write "" (e.space.takeWhile (· ≠ s.ending)) true s.ending)
  | .quit prints status => .ok (.quit prints status, e)
  | .readFile path =>
    let text := if path = "/dev/stdin" then .ok "" else s.call.disk.read s.call.cwd path
    .ok (.next, { e with
      waiting := ((text.toOption.getD "").toList, false) :: e.waiting })
  | .readLine path =>
    let left := (e.readers.lookup path).getD
      (linesIn s.ending path ((s.call.disk.read s.call.cwd path).toOption.getD "").toList)
    match left with
    | [] => .ok (.next, e)
    | line :: rest =>
      .ok (.next, { e with
        waiting := (line.text, true) :: e.waiting
        readers := (path, rest) :: e.readers.filter fun x => x.1 ≠ path })
  | .substitute x =>
    match e.needle? x.needle with
    | none => .error noNeedle
    | some n =>
      let t := Regex.Subject.ofText n.folded n.byLine e.space
      let (text, replaced) := replaceFrom n x t (t.chars.size + 2) 0 none 0
      let e := { e with lastNeedle := some n }
      if !replaced then .ok (.next, e)
      else
        let e := { e with space := text, replaced := true }
        let e := if x.prints then e.writeSpace s "" e.space else e
        .ok (.next, match x.file with
          | some path => e.writeSpace s (target path) e.space
          | none => e)
  | .write lineOnly path =>
    .ok (.next,
      if lineOnly then
        e.write (target path) (e.space.takeWhile (· ≠ s.ending)) true s.ending
      else e.writeSpace s (target path) e.space)
  | .translate table =>
    .ok (.next, { e with space := e.space.map fun c => (table.lookup c).getD c })
  | .clear => .ok (.next, { e with space := [] })
where
  /-- Where a label leads. -/
  jump (label : String) : Way :=
    if label.isEmpty then .finish else .jump ((s.script.labels.lookup label).getD 0)

/-- Run commands for a line, from an index on; `fuel` bounds their number. -/
def runFrom (s : Setting) (commands : Array Command) : Nat → Nat → Editing →
    Except String (Way × Editing)
  | 0, _, e => .ok (.finish, e)
  | fuel + 1, index, e =>
    match commands[index]? with
    | none => .ok (.finish, e)
    | some c => do
      let (selected, e) ← e.selects index c.selection
      if selected = c.selection.negated then
        match c.action with
        | .open_ =>
          runFrom s commands fuel (blockEnd ((commands.toList).drop (index + 1)) (index + 1) 0) e
        | _ => runFrom s commands fuel (index + 1) e
      else
        match ← run s e index c.selection c.action with
        | (.next, e) => runFrom s commands fuel (index + 1) e
        | (.jump index, e) => runFrom s commands fuel index e
        | stop => .ok stop

/-- How many commands are run for a line at most. -/
def commandLimit : Nat := 1000000

/-- Run the script for line after line: the status, and what the editor knows in the end. `keeps`
says that the next line is what is left of this one. Each step reads a line or makes it shorter, so
`fuel` is the size of the input. -/
def cycles (s : Setting) (commands : Array Command) : Nat → Bool → Editing →
    Except (String × Editing) (Nat × Bool × Editing)
  | 0, _, e => .ok (0, false, e)
  | fuel + 1, keeps, e =>
    let ready := if keeps then some e else (e.read s false).map fun e => { e with replaced := false }
    match ready with
    | none => .ok (0, false, e)
    | some e =>
      let finish (prints : Bool) (e : Editing) : Editing :=
        (if prints && !s.quiet then e.writeSpace s "" e.space else e).flush s
      match runFrom s commands commandLimit 0 e with
      | .error text => .error (text, e)
      | .ok (.drop, e) => cycles s commands fuel false (finish false e)
      | .ok (.again, e) => cycles s commands fuel true (finish false e)
      | .ok (.quit prints status, e) =>
        .ok (status, true, if prints then finish true e else e)
      | .ok (_, e) => cycles s commands fuel false (finish true e)

/-! ## The tool -/

/-- The options. -/
def options : Options :=
  ⟨"bsnre:f:l:iuEz", [("quiet", 'n'), ("silent", 'n'), ("expression", 'e'), ("file", 'f'),
    ("line-length", 'l'), ("regexp-extended", 'E'), ("separate", 's'), ("in-place", 'i'),
    ("unbuffered", 'u'), ("null-data", 'z'), ("zero-terminated", 'z'), ("posix", 'b'),
    ("sandbox", 'b'), ("debug", 'b')], ['i'], true⟩

/-- How the tool shows how it is used. -/
def usage (c : Call) : String :=
  "Usage: " ++ c.name ++ " [OPTION]... \x7bscript-only-if-no-other-script\x7d [input-file]...\n"

/-- Take the letter for editing in place out of the arguments, with what comes behind it. -/
def inPlace (args : List String) : Option String × List String :=
  let isPlace (arg : String) : Bool := Text.startsWith arg "-i" || Text.startsWith arg "--in-place"
  match args.find? isPlace with
  | none => (none, args)
  | some arg =>
    let ending := if Text.startsWith arg "--" then (arg.drop "--in-place=".length).toString
      else (arg.drop 2).toString
    (some ending, args.filter fun other => !isPlace other)

/-- The parts of a script that the arguments give, in their order. -/
def scriptParts (c : Call) (a : Arguments) :
    Except (String × Trouble) (List (List Char × (Fault → String)) × List String) := do
  let given := a.given.filter fun g => g.1 = 'e' || g.1 = 'f'
  let expression (index : Nat) (text : String) : List Char × (Fault → String) :=
    (text.toList, fun fault =>
      "-e expression #" ++ toString index ++ ", char " ++ toString fault.count ++ ": ")
  if given.isEmpty then
    match a.operands with
    | script :: rest => .ok ([expression 1 script], rest)
    | [] => .ok ([], [])
  else
    let (parts, _) ← given.foldlM (fun (state : List (List Char × (Fault → String)) × Nat)
        (letter, text) =>
      if letter = 'e' then
        -- A text that ends with a backslash goes on with the next one.
        match state.1.getLast? with
        | some (before, place) =>
          if before.getLast? = some '\\' then
            .ok (state.1.dropLast ++ [(before ++ '\n' :: text.toList, place)], state.2 + 1)
          else .ok (state.1 ++ [expression (state.2 + 1) text], state.2 + 1)
        | none => .ok (state.1 ++ [expression (state.2 + 1) text], state.2 + 1)
      else
        match contentOf c (Effect.nothing c) text with
        | .error trouble => .error (text, trouble)
        | .ok content =>
          .ok (state.1 ++ [(content.toList, fun fault =>
            "file " ++ text ++ " line " ++ toString fault.line ++ ": ")], state.2)) ([], 0)
    .ok (parts, a.operands)

/-- The first label that commands lead to although there is none. -/
def missingLabel? (s : Script) : Option String :=
  s.commands.findSome? fun c =>
    match c.action with
    | .branch label | .branchIf _ label =>
      if label.isEmpty || (s.labels.lookup label).isSome then none else some label
    | _ => none

/-- The files that commands write to. -/
def written (s : Script) : List String :=
  s.commands.filterMap fun c =>
    match c.action with
    | .write _ path => some path
    | .substitute x => x.file
    | _ => none

/-- The spans of a script before the first line: a range from line zero on has begun. -/
def startingSpans (s : Script) : Array Span :=
  (s.commands.map fun c =>
    match c.selection.first with
    | some address => if isZero address then .inside none else .outside
    | none => .outside).toArray

/-- All that was written. -/
def Output.all (o : Output) : String := String.ofList o.pieces.reverse.flatten

/-- Put what was written for files on the disk, and take what was written to streams. -/
def deliver (c : Call) (outputs : List (String × Output)) (e : Effect) : Effect :=
  outputs.reverse.foldl (fun e (path, output) =>
    if path.isEmpty then e
    else if path = "/dev/stderr" then { e with written := e.written ++ [(2, output.all)] }
    else
      match e.disk.update c.cwd path fun _ => output.all with
      | .ok disk => { e with disk := disk }
      | .error trouble =>
        e.complain c.name 4 ("couldn't open file " ++ path ++ ": " ++ trouble.words)) e

/-- Edit files where they are. -/
def editFiles (s : Setting) (ending : String) (start : Editing) (operands : List String)
    (e : Effect) : Effect :=
  let c := s.call
  (operands.foldl (fun (state : Effect × Editing × Bool) path =>
    let (e, x, stopped) := state
    if stopped then state
    else
      match e.disk.find c.cwd path with
      | .error trouble =>
        (e.complain c.name 2 ("can't read " ++ path ++ ": " ++ trouble.words), x, false)
      | .ok .directory =>
        (e.complain c.name 4 ("couldn't edit " ++ path ++ ": not a regular file"), x, false)
      | .ok node =>
        let text := (Disk.contentOf node).toOption.getD ""
        let x := { x with
          input := linesIn s.ending path text.toList, number := 0
          outputs := x.outputs.filter fun o => !o.1.isEmpty }
        match cycles s s.script.commands.toArray (text.length + 2) false x with
        | .error (words, _) => (e.complain c.name 1 words, x, true)
        | .ok (status, quits, x) =>
          let rest := if !quits then [] else x.input
          let x := rest.foldl (fun x line => x.write "" line.text line.ended s.ending) x
          let result := ((x.outputs.lookup "").map Output.all).getD ""
          let backup := if ending.contains '*' then ending.replace "*" path else path ++ ending
          let disk := if ending.isEmpty then e.disk
            else ((e.disk.update c.cwd backup fun _ => text).toOption).getD e.disk
          let disk := ((disk.update c.cwd path fun _ => result).toOption).getD disk
          ({ e with disk := disk, status := if quits then status else e.status }, x, quits))
    (e, start, false)).1

/-- Edit a stream. -/
def sed : Tool := fun c =>
  let misuse (text : Option String) : Effect :=
    let e := { Effect.nothing c with status := 1 }
    let e := match text with
      | some text => e.complain c.name 1 text
      | none => e
    { e with written := e.written ++ [(2, usage c)] }
  let (place, args) := inPlace c.args
  match options.read args with
  | .error m => misuse (some m.words)
  | .ok a =>
    match scriptParts c a with
    | .error (path, trouble) =>
      refuses 4 ((if trouble = .isDirectory then "read error on " ++ path
          else "couldn't open file " ++ path) ++ ": " ++ trouble.words) c
    | .ok ([], _) => misuse none
    | .ok (parts, operands) =>
      match read (a.has 'E' || a.has 'r') parts with
      | .error text =>
        refuses (if text = Regex.Fault.bareClass.words then 4 else 1) text c
      | .ok script =>
        match missingLabel? script with
        | some label => refuses 4 ("can't find label for jump to \x60" ++ label ++ "'") c
        | none =>
          let quiet := a.has 'n' || script.isQuiet
          let ending := if a.has 'z' then '\x00' else '\n'
          let width := ((a.value? 'l').bind String.toNat?).getD 70
          let setting : Setting := ⟨script, quiet, ending, width, c⟩
          let files := ((written script).map target).filter fun path => !path.isEmpty
          let outputs := files.eraseDups.map fun path => (path, (⟨[], false⟩ : Output))
          let start : Editing :=
            ⟨[], [], ⟨[], true, "-"⟩, 0, [], [], false, startingSpans script, none, outputs, []⟩
          match place with
          | some suffix =>
            if operands.isEmpty then refuses 4 "no input files" c
            else editFiles setting suffix start operands (Effect.nothing c)
          | none =>
            let names := if operands.isEmpty then ["-"] else operands
            let (lines, e) := names.foldl (fun (state : List (List Line) × Effect) path =>
              match contentOf c state.2 path with
              | .ok text =>
                (linesIn ending path text.toList :: state.1,
                  if isInput c path then state.2.takeAll c else state.2)
              | .error .isDirectory =>
                (state.1, state.2.complain c.name 4
                  ("read error on " ++ path ++ ": " ++ Trouble.isDirectory.words))
              | .error trouble =>
                (state.1, state.2.complain c.name 2 ("can't read " ++ path ++ ": " ++ trouble.words)))
              ([], Effect.nothing c)
            let groups := lines.reverse
            let size := ((groups.flatten).map fun line => line.text.length + 1).foldl (· + ·) 0
            let groups := if a.has 's' then groups else [groups.flatten]
            let finish (e : Effect) (x : Editing) : Effect :=
              let text := ((x.outputs.lookup "").map Output.all).getD ""
              (deliver c x.outputs (e.out text)).held
            let step (state : Except (String × Editing) (Nat × Bool × Editing)) (lines : List Line) :
                Except (String × Editing) (Nat × Bool × Editing) := do
              let (status, quits, x) ← state
              if quits then .ok (status, quits, x)
              else
                cycles setting script.commands.toArray (size + 2) false
                  { x with input := lines, number := if a.has 's' then 0 else x.number }
            match groups.foldl step (.ok (0, false, start)) with
            | .error (text, x) => finish (e.complain c.name 1 text) x
            | .ok (status, quits, x) =>
              let left := (x.input.map fun line =>
                line.text.length + (if line.ended then 1 else 0)).foldl (· + ·) 0
              let e := if quits && c.fromFile then { e with taken := e.taken - left } else e
              finish (if quits then { e with status := status } else e) x

end CSharpBuild.Machine.Tool.Sed
