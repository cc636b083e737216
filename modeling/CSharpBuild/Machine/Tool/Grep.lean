/-
The tool that looks for lines: which lines of which files a list of expressions matches, and how
they are shown, with their names and numbers and the lines around them.
-/
import CSharpBuild.Machine.Regex.Reader
import CSharpBuild.Machine.Tool.Files

namespace CSharpBuild.Machine.Tool.Grep

/-- What is looked for. -/
structure Wanted where
  expressions : List Regex
  folded : Bool
  /-- Whether a match must not touch other characters of a word. -/
  words : Bool
  /-- Whether a match must be a whole line. -/
  wholeLines : Bool
  /-- Whether the lines without a match are wanted. -/
  inverted : Bool

/-- The first match of a line from a place on, and of those the longest. -/
def Wanted.find? (w : Wanted) (t : Regex.Subject) (position : Nat) : Option Regex.Match :=
  let accept (start stop : Nat) : Bool :=
    (!w.wholeLines || (start = 0 && stop = t.chars.size)) &&
      (!w.words || (!t.wordBefore start && !t.wordAt stop))
  let found := w.expressions.filterMap fun r => Regex.searchIf t r accept position
  found.foldl (fun best m =>
    match best with
    | none => some m
    | some b =>
      if m.start < b.start || (m.start = b.start && b.stop < m.stop) then some m else best) none

/-- The text of a line to look in. -/
def Wanted.subject (w : Wanted) (line : List Char) : Regex.Subject := .ofText w.folded false line

/-- Whether a line is wanted. -/
def Wanted.selects (w : Wanted) (line : List Char) : Bool :=
  (w.find? (w.subject line) 0).isSome ≠ w.inverted

/-- All matches of a line that are not empty, from a place on. Each step goes one character on at
least, so `fuel` is what is left of the line. -/
def Wanted.matches (w : Wanted) (t : Regex.Subject) : Nat → Nat → List Regex.Match
  | 0, _ => []
  | fuel + 1, position =>
    match w.find? t position with
    | none => []
    | some m =>
      if m.start = m.stop then w.matches t fuel (m.stop + 1) else m :: w.matches t fuel m.stop

/-- How what was found is shown. -/
structure Showing where
  /-- What stands in front of each line, if the name is shown. -/
  named : Bool
  numbered : Bool
  offsets : Bool
  onlyMatches : Bool
  before : Nat
  after : Nat
  /-- How many lines are selected at most. -/
  most : Option Nat
  ending : Char
  /-- What stands behind a name. -/
  nameEnd : Option Char

/-- The front of a line that is shown. -/
def Showing.front (s : Showing) (name : String) (sign : String) (number offset : Nat) : String :=
  (if s.named then
    name ++ (match s.nameEnd with
      | some c => String.singleton c
      | none => sign)
  else "")
    ++ (if s.numbered then toString number ++ sign else "")
    ++ (if s.offsets then toString offset ++ sign else "")

/-- A line with its number and its offset. -/
structure Line where
  text : List Char
  number : Nat
  offset : Nat

/-- The lines of a text. -/
def linesOf (ending : Char) (text : List Char) : List Line :=
  let all := text.splitOn ending
  let all := if all.getLast? = some [] then all.dropLast else all
  (all.foldl (fun (lines, number, offset) text =>
    ((⟨text, number, offset⟩ : Line) :: lines, number + 1, offset + text.length + 1))
    ([], 1, 0)).1.reverse

/-- How far showing has come. -/
structure Shown where
  pieces : List String
  /-- Lines that may still be needed before a match, the last one first. -/
  waiting : List Line
  /-- How many lines to show after the last match. -/
  due : Nat
  /-- The number of the line that was shown last, zero before the first one. -/
  last : Nat
  /-- Whether something of another file has been shown. -/
  follows : Bool
  count : Nat

/-- Show a line. -/
def Showing.line (s : Showing) (name sign : String) (l : Line) : String :=
  s.front name sign l.number l.offset ++ String.ofList l.text ++ String.singleton s.ending

/-- Go on to the next line. -/
def step (w : Wanted) (s : Showing) (name : String) (x : Shown) (l : Line) : Shown :=
  let full := s.most.any (· ≤ x.count)
  if !full && w.selects l.text then
    let shown : List String :=
      if s.onlyMatches then
        if w.inverted then []
        else
          let t := w.subject l.text
          (w.matches t (l.text.length + 1) 0).map fun m =>
            s.front name ":" l.number (l.offset + m.start)
              ++ String.ofList (t.part m.start m.stop) ++ String.singleton s.ending
      else [s.line name ":" l]
    let before := (x.waiting.take s.before).reverse
    let first := (before.head?.map Line.number).getD l.number
    let isApart := 0 < s.before + s.after &&
      if x.last = 0 then x.follows else x.last + 1 < first
    let around := if s.onlyMatches then [] else before.map (s.line name "-")
    { x with
      pieces := shown.reverse ++ around.reverse ++ (if isApart then ["--\n"] else []) ++ x.pieces
      waiting := []
      due := s.after
      last := l.number
      count := x.count + 1 }
  else if 0 < x.due then
    { x with
      pieces := if s.onlyMatches then x.pieces else s.line name "-" l :: x.pieces
      due := x.due - 1
      last := l.number }
  else { x with waiting := (l :: x.waiting).take s.before }

/-- What is wanted of each file. -/
inductive Asked where
  | lines
  | count
  /-- The name if there is such a line, or if there is none. -/
  | name (present : Bool)
  | nothing
  deriving Repr, DecidableEq

/-- How far the search has come: what was written, and whether anything was found or went wrong. -/
structure Progress where
  effect : Effect
  found : Bool
  troubled : Bool

/-- A search. -/
structure Search where
  wanted : Wanted
  showing : Showing
  asked : Asked
  /-- Whether files are text whatever is in them. -/
  isText : Bool
  silent : Bool

/-- Look into a text. -/
def Search.content (s : Search) (c : Call) (name : String) (named : Bool) (text : String)
    (p : Progress) : Progress :=
  let showing := { s.showing with named := named }
  let chars := text.toList
  let lines := linesOf showing.ending chars
  let isBinary := !s.isText && showing.ending ≠ '\x00' && chars.contains '\x00'
  let x := lines.foldl (step s.wanted showing name) ⟨[], [], 0, 0, p.found, 0⟩
  let found := 0 < x.count
  let front := if named then name ++ String.singleton (showing.nameEnd.getD ':') else ""
  let e := p.effect
  let stop := String.singleton (showing.nameEnd.getD '\n')
  let e :=
    match s.asked with
    | .nothing => e
    | .count => e.line (front ++ toString x.count)
    | .name present => if found = present then e.out (name ++ stop) else e
    | .lines =>
      if isBinary then
        if found then e.complain c.name e.status (name ++ ": binary file matches") else e
      else e.out (String.join x.pieces.reverse)
  { p with effect := e, found := p.found || found }

/-- Complain about a file. -/
def Search.failed (s : Search) (c : Call) (name : String) (trouble : Trouble) (p : Progress) :
    Progress :=
  if s.silent then { p with troubled := true }
  else
    { p with
      effect := p.effect.complain c.name 2 (name ++ ": " ++ trouble.words)
      troubled := true }

/-- Which files of a directory are looked into. -/
structure Filter where
  included : List Pattern
  excluded : List Pattern
  excludedDirectories : List Pattern

/-- Whether a file of a name is looked into. -/
def Filter.admits (f : Filter) (name : String) : Bool :=
  let covered (patterns : List Pattern) : Bool := patterns.any fun p => p.covers name.toList
  (f.included.isEmpty || covered f.included) && !covered f.excluded

/-- The files in and below a directory, each with its path; `fuel` bounds the depth. -/
def filesBelow (d : Disk) (f : Filter) : Nat → String → Place → List (String × Place)
  | 0, _, _ => []
  | fuel + 1, path, place =>
    (d.entries place).flatMap fun name =>
      let inner := if path.isEmpty then name else below path name
      match d.get? (place ++ [name]) with
      | some .directory =>
        if f.excludedDirectories.any fun p => p.covers name.toList then []
        else filesBelow d f fuel inner (place ++ [name])
      | some (.file ..) | some (.program _) =>
        if f.admits name then [(inner, place ++ [name])] else []
      | _ => []

/-- How the tool shows how it is used. -/
def usage (c : Call) : String :=
  let name := baseName c.name
  "Usage: " ++ name ++ " [OPTION]... PATTERNS [FILE]...\nTry '" ++ name
    ++ " --help' for more information.\n"

/-- Show how the tool is used, perhaps behind a complaint. -/
def misuse (complaint : Option String) : Tool := fun c =>
  let e := { Effect.nothing c with status := 2 }
  let e := match complaint with
    | some text => e.complain c.name 2 text
    | none => e
  { e with written := e.written ++ [(2, usage c)] }

/-- The options. -/
def options : Options :=
  ⟨"0A:B:C:EFGHILPRTUVabce:f:hilm:noqrsvwxyzZ1:2:3:", [("after-context", 'A'),
    ("before-context", 'B'), ("context", 'C'), ("extended-regexp", 'E'), ("fixed-strings", 'F'),
    ("basic-regexp", 'G'), ("with-filename", 'H'), ("files-without-match", 'L'), ("text", 'a'),
    ("byte-offset", 'b'), ("count", 'c'), ("regexp", 'e'), ("file", 'f'), ("no-filename", 'h'),
    ("ignore-case", 'i'), ("files-with-matches", 'l'), ("max-count", 'm'), ("line-number", 'n'),
    ("only-matching", 'o'), ("quiet", 'q'), ("silent", 'q'), ("recursive", 'r'),
    ("dereference-recursive", 'R'), ("no-messages", 's'), ("invert-match", 'v'),
    ("word-regexp", 'w'), ("line-regexp", 'x'), ("null-data", 'z'), ("null", 'Z'),
    ("include", '1'), ("exclude", '2'), ("exclude-dir", '3'), ("color", 'T'), ("colour", 'T'),
    ("perl-regexp", 'P')], ['T'], true⟩

/-- Read expressions, one to a line. -/
def expressions (letter : Char) (patterns : List String) : Except Regex.Fault (List Regex) :=
  patterns.mapM fun pattern =>
    if letter = 'F' then .ok (Regex.literal pattern)
    else
      (Regex.read { Regex.Dialect.plain (letter ≠ 'G') with checksClasses := true } pattern).map
        Prod.fst

/-- The sign that an expression begins with although it is none that can. -/
def strayOperator? (letter : Char) (pattern : String) : Option String :=
  if letter = 'E' || letter = 'P' then
    match pattern.toList.head? with
    | some c =>
      if ['*', '+', '?'].contains c then
        some ("warning: " ++ String.singleton c ++ " at start of expression")
      else none
    | none => none
  else none

/-- Look into one operand. -/
def Search.operand (s : Search) (c : Call) (a : Arguments) (f : Filter) (single deep : Bool)
    (p : Progress) (path : String) : Progress :=
  if s.asked = .nothing && p.found then p
  else
    let named (inner : Bool) : Bool :=
      match a.last? ['h', 'H'] with
      | some letter => letter = 'H'
      | none => !single || inner
    let name := if path = "-" then "(standard input)" else path
    match contentOf c p.effect path with
    | .ok text =>
      if deep && path ≠ "-" && !f.admits (baseName path) then p
      else
        let p := if isInput c path then { p with effect := p.effect.takeAll c } else p
        s.content c name (named false) text p
    | .error .isDirectory =>
      if deep then
        match c.disk.locate ⟨true, false⟩ c.cwd path with
        | .error trouble => s.failed c name trouble p
        | .ok place =>
          let shownPath := if a.operands.isEmpty then "" else path
          (filesBelow c.disk f (c.disk.nodes.length + 1) shownPath place).foldl (fun p file =>
            match (c.disk.get? file.2).map Disk.contentOf with
            | some (.ok text) => s.content c file.1 (named true) text p
            | _ => p) p
      else s.failed c name .isDirectory p
    | .error trouble => s.failed c name trouble p

/-- Look for lines. `usual` is the letter of the dialect that expressions are written in. -/
def run (usual : Char) : Tool := fun c =>
  match options.read c.args with
  | .error m => misuse (some m.words) c
  | .ok a =>
    let lineList (text : String) : List String := (text.toList.splitOn '\n').map String.ofList
    let fromFiles : Except (String × Trouble) (List String) := do
      let texts ← (a.values 'f').mapM fun path =>
        match contentOf c (Effect.nothing c) path with
        | .ok text => .ok (lines text).1
        | .error trouble => .error (path, trouble)
      .ok texts.flatten
    let isGiven := a.has 'e' || a.has 'f'
    let operands := if isGiven then a.operands else a.operands.tail
    match isGiven, a.operands, fromFiles with
    | false, [], _ => misuse none c
    | _, _, .error (path, trouble) => refuses 2 (path ++ ": " ++ trouble.words) c
    | _, first, .ok more =>
      let patterns := (if isGiven then (a.values 'e').flatMap lineList
        else (first.take 1).flatMap lineList) ++ more
      let letter := (a.last? ['E', 'F', 'G', 'P']).getD usual
      let context (letters : List Char) : Except String Nat :=
        match (a.given.filter fun g => letters.contains g.1).getLast? with
        | none => .ok 0
        | some (_, text) =>
          match text.toNat? with
          | some n => .ok n
          | none => .error (text ++ ": invalid context length argument")
      let numbers : Except String (Nat × Nat × Option Nat) := do
        let most ← match a.value? 'm' with
          | none => pure none
          | some text =>
            match text.toInt? with
            | some n => pure (if n < 0 then none else some n.toNat)
            | none => throw "invalid max count"
        .ok (← context ['B', 'C', '0'], ← context ['A', 'C', '0'], most)
      match numbers, expressions letter patterns with
      | .error text, _ => refuses 2 text c
      | _, .error fault => refuses 2 fault.words c
      | .ok (before, after, most), .ok expressions =>
        let ending := if a.has 'z' then '\x00' else '\n'
        let asked : Asked :=
          if a.has 'q' then .nothing
          else
            match a.last? ['l', 'L'] with
            | some letter => .name (letter = 'l')
            | none => if a.has 'c' then .count else .lines
        let s : Search :=
          { wanted := ⟨expressions, a.has 'i' || a.has 'y', a.has 'w', a.has 'x', a.has 'v'⟩
            showing := ⟨false, a.has 'n', a.has 'b', a.has 'o', before, after, most, ending,
              if a.has 'Z' then some '\x00' else none⟩
            asked := asked
            isText := a.has 'a'
            silent := a.has 's' }
        let deep := a.has 'r' || a.has 'R'
        let files (letter : Char) : List Pattern := (a.values letter).map Pattern.ofText
        let f : Filter := ⟨files '1', files '2', files '3'⟩
        let single := operands.length ≤ 1
        let paths := if operands.isEmpty then [if deep then "." else "-"] else operands
        let warned := (patterns.filterMap (strayOperator? letter)).foldl
          (fun (e : Effect) text => e.complain c.name 0 text) (Effect.nothing c)
        let p := paths.foldl (s.operand c { a with operands := operands } f single deep)
          ⟨warned, false, false⟩
        let status := if p.troubled && !(a.has 'q' && p.found) then 2 else if p.found then 0 else 1
        { p.effect.held with status := status }

/-- Look for lines that basic expressions match. -/
def grep : Tool := run 'G'

/-- Look for lines that extended expressions match. -/
def egrep : Tool := fun c => run 'E' { c with name := "grep" }

/-- Look for lines with given texts. -/
def fgrep : Tool := fun c => run 'F' { c with name := "grep" }

end CSharpBuild.Machine.Tool.Grep
