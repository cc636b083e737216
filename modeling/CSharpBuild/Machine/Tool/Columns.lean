/-
Tools that take lines apart into columns or put columns together: fields and ranges of characters,
lines side by side, numbers in front, folding, tabs, and counts.
-/
import CSharpBuild.Machine.Regex.Reader
import CSharpBuild.Machine.Tool

namespace CSharpBuild.Machine.Tool

open Text

/-! ## Selections -/

/-- A range of positions, from one on; without an end it goes on for ever. -/
structure Range where
  first : Nat
  last : Option Nat
  deriving Repr, DecidableEq

/-- Whether a position is in a range. -/
def Range.holds (r : Range) (position : Nat) : Bool :=
  r.first ≤ position && r.last.all (position ≤ ·)

/-- What is to be selected. -/
inductive Selected where
  | fields
  | characters
  deriving Repr, DecidableEq

/-- Read the number of a position at the front of a text. -/
def Selected.number (s : Selected) (text : String) : Except String Nat :=
  let digits := text.toList.takeWhile Char.isDigit
  let n := Numeral.ofDigits 10 digits
  if digits.length < text.length then
    .error ((match s with
      | .fields => "invalid field value "
      | .characters => "invalid byte/character position ")
      ++ escaped (text.drop digits.length).toString)
  else if Nat.pow 2 64 - 1 ≤ n then
    .error ((match s with
      | .fields => "field number "
      | .characters => "byte/character offset ") ++ escaped text ++ " is too large")
  else if n = 0 then
    .error (match s with
      | .fields => "fields are numbered from 1"
      | .characters => "byte/character positions are numbered from 1")
  else .ok n

/-- Read a range. -/
def Selected.range (s : Selected) (text : String) : Except String Range :=
  match (text.toList.splitOn '-').map String.ofList with
  | [number] => do
    let n ← s.number number
    .ok ⟨n, some n⟩
  | ["", ""] => .error "invalid range with no endpoint: -"
  | [first, ""] => do .ok ⟨← s.number first, none⟩
  | ["", last] => do .ok ⟨1, some (← s.number last)⟩
  | [first, last] => do
    let first ← s.number first
    let last ← s.number last
    if last < first then .error "invalid decreasing range" else .ok ⟨first, some last⟩
  | _ =>
    .error (match s with
      | .fields => "invalid field range"
      | .characters => "invalid byte or character range")

/-- Read a list of ranges. -/
def Selected.ranges (s : Selected) (text : String) : Except String (List Range) :=
  (text.toList.splitOnP fun c => c = ',' || c = ' ' || c = '\t').mapM fun piece =>
    s.range (String.ofList piece)

/-- The items at selected positions. -/
def selected {α : Type} (isSelected : Nat → Bool) (items : List α) : List α :=
  (items.zipIdx 1).filterMap fun (item, position) => if isSelected position then some item else none

/-- Select characters of a line. Runs of them that do not touch are joined by a delimiter. -/
def selectChars (isSelected : Nat → Bool) (delimiter : List Char) (line : List Char) : List Char :=
  let chosen := (line.zipIdx 1).filter fun (_, position) => isSelected position
  let step (state : List Char × Option Nat) (item : Char × Nat) : List Char × Option Nat :=
    let joins := state.2.any fun last => last + 1 ≠ item.2
    (item.1 :: (if joins then delimiter.reverse ++ state.1 else state.1), some item.2)
  (chosen.foldl step ([], none)).1.reverse

/-- Select parts of lines. -/
def cut : Tool :=
  let options : Options := ⟨"b:c:d:f:nszO:C", [("bytes", 'b'), ("characters", 'c'),
    ("delimiter", 'd'), ("fields", 'f'), ("only-delimited", 's'), ("zero-terminated", 'z'),
    ("output-delimiter", 'O'), ("complement", 'C')], [], true⟩
  withOptions options 1 fun a c =>
    let lists := a.given.filter fun g => ['b', 'c', 'f'].contains g.1
    let wide := (a.values 'd').any fun d => 1 < d.length
    match lists with
    | _ :: _ :: _ => misused 1 "only one list may be specified" c
    | lists =>
      if wide then misused 1 "the delimiter must be a single character" c
      else
        match lists with
        | [] => misused 1 "you must specify a list of bytes, characters, or fields" c
        | (letter, list) :: _ =>
          let s : Selected := if letter = 'f' then .fields else .characters
          if s = .characters && a.has 'd' then
            misused 1 "an input delimiter may be specified only when operating on fields" c
          else if s = .characters && a.has 's' then
            misused 1 ("suppressing non-delimited lines makes sense\n\tonly when operating on"
              ++ " fields") c
          else
            match s.ranges list with
            | .error text => misused 1 text c
            | .ok ranges =>
              let isSelected (position : Nat) : Bool :=
                ranges.any (Range.holds · position) ≠ a.has 'C'
              let delimiter := ((a.value? 'd').map fun d => d.toList.headD '\x00').getD '\t'
              let joiner := (a.value? 'O').map String.toList
              let write (line : List Char) : Option (List Char) :=
                match s with
                | .characters => some (selectChars isSelected (joiner.getD []) line)
                | .fields =>
                  if line.contains delimiter then
                    some ((joiner.getD [delimiter]).intercalate
                      (selected isSelected (line.splitOn delimiter)))
                  else if a.has 's' then none
                  else some line
              let ending := if a.has 'z' then '\x00' else '\n'
              (forContents c a.operands plainComplaint (Effect.nothing c) fun e _ text =>
                let lines := (text.toList.splitOn ending)
                let lines := if lines.getLast? = some [] then lines.dropLast else lines
                e.out (String.ofList ((lines.filterMap write).flatMap (· ++ [ending])))).held

/-! ## Side by side -/

/-- Read a list of delimiters, each of which may be nothing. -/
def delimiters? : List Char → Option (List (List Char))
  | [] => some []
  | ['\\'] => none
  | '\\' :: c :: rest => do
    let more ← delimiters? rest
    let this := match c with
      | '0' => []
      | 'b' => ['\x08']
      | 'f' => ['\x0c']
      | 'n' => ['\n']
      | 'r' => ['\r']
      | 't' => ['\t']
      | 'v' => ['\x0b']
      | c => [c]
    pure (this :: more)
  | c :: rest => do pure ([c] :: (← delimiters? rest))

/-- Join items by delimiters that take turns. -/
def joinInTurn (delimiters : List (List Char)) (items : List String) : String :=
  let count := delimiters.length
  let text := (items.zipIdx).map fun (item, i) =>
    if i = 0 then item
    else String.ofList (delimiters[(i - 1) % (max count 1)]?.getD []) ++ item
  String.join text

/-- A column of lines; those of the input are shared by all that read it. -/
structure Column where
  shared : Bool
  lines : List String

/-- Take the next line of each column. -/
def nextRow : List Column → List String → List (Option String) × List Column × List String
  | [], input => ([], [], input)
  | column :: rest, input =>
    let source := if column.shared then input else column.lines
    let (line, left) : Option String × List String :=
      match source with
      | [] => (none, [])
      | line :: left => (some line, left)
    let (lines, columns, input) := nextRow rest (if column.shared then left else input)
    (line :: lines, { column with lines := if column.shared then [] else left } :: columns, input)

/-- Put columns side by side. Each row takes a line, so `fuel` is the number of all lines. -/
def rowsOf (delimiters : List (List Char)) : Nat → List Column → List String → List String
  | 0, _, _ => []
  | fuel + 1, columns, input =>
    let (lines, columns, input) := nextRow columns input
    if lines.all Option.isNone then []
    else joinInTurn delimiters (lines.map fun line => line.getD "")
      :: rowsOf delimiters fuel columns input

/-- Put lines of files side by side, or all lines of each file. -/
def paste : Tool :=
  withOptions ⟨"d:sz", [("delimiters", 'd'), ("serial", 's'), ("zero-terminated", 'z')], [], true⟩ 1
    fun a c =>
    let list := (a.value? 'd').getD "\t"
    match delimiters? list.toList with
    | none =>
      refuses 1 ("delimiter list ends with an unescaped backslash: " ++ shown list) c
    | some delimiters =>
      let delimiters := if delimiters.isEmpty then [[]] else delimiters
      let operands := if a.operands.isEmpty then ["-"] else a.operands
      if a.has 's' then
        (forContents c operands plainComplaint (Effect.nothing c) fun e _ text =>
          e.line (joinInTurn delimiters (lines text).1)).held
      else
        let e := Effect.nothing c
        match operands.findSome? fun path =>
            match contentOf c e path with
            | .error trouble => some (plainComplaint path trouble)
            | .ok _ => none with
        | some complaint => e.complain c.name 1 complaint
        | none =>
          let columns := operands.map fun path =>
            if isInput c path then ⟨true, []⟩
            else ⟨false, (lines ((contentOf c e path).toOption.getD "")).1⟩
          let input := if operands.any (isInput c) then (lines (String.ofList c.input)).1 else []
          let count := (columns.map fun column => column.lines.length).foldl (· + ·) 0
            + input.length + 1
          let e := e.out (unlines (rowsOf delimiters count columns input))
          if operands.any (isInput c) then e.takeAll c else e

/-! ## Widths -/

/-- The column behind a character. -/
def columnAfter (column : Nat) (c : Char) : Nat :=
  match c with
  | '\x08' => column - 1
  | '\r' => 0
  | '\t' => column + 8 - column % 8
  | _ => column + 1

/-- How lines are folded. -/
structure Folding where
  width : Nat
  atBlanks : Bool
  octets : Bool

/-- The column behind some characters, which are given in reverse order. -/
def Folding.columnOf (f : Folding) (line : List Char) : Nat :=
  if f.octets then line.length else line.reverse.foldl columnAfter 0

/-- Add a character to a line that is given in reverse order, and end the line where it gets too
wide: the lines that have ended, and the one that goes on. -/
def Folding.push (f : Folding) : Nat → List Char → Char → List (List Char) × List Char
  | 0, line, c => ([], c :: line)
  | fuel + 1, line, c =>
    let column := if f.octets then line.length + 1 else columnAfter (f.columnOf line) c
    if column ≤ f.width || line.isEmpty then ([], c :: line)
    else
      let rest := line.takeWhile fun c => c ≠ ' ' && c ≠ '\t'
      let (done, line) : List Char × List Char :=
        if f.atBlanks && rest.length < line.length then (line.drop rest.length, rest) else (line, [])
      let (more, line) := f.push fuel line c
      (done :: more, line)

/-- Fold a line. -/
def Folding.line (f : Folding) (line : List Char) : List Char :=
  let (done, last) := line.foldl (fun (done, line) c =>
    let (more, line) := f.push (line.length + 2) line c
    (more.reverse ++ done, line)) (([] : List (List Char)), ([] : List Char))
  (['\n'] : List Char).intercalate ((last :: done).reverse.map List.reverse)

/-- Fold lines that are too wide. -/
def fold : Tool :=
  withOptions ⟨"0bsw:", [("bytes", 'b'), ("spaces", 's'), ("width", 'w')], [], true⟩ 1 fun a c =>
    let text := ((a.given.reverse.find? fun g => g.1 = 'w' || g.1 = '0').map Prod.snd).getD "80"
    match count? text with
    | none => refuses 1 ("invalid number of columns: " ++ escaped text) c
    | some 0 =>
      refuses 1 ("invalid number of columns: " ++ escaped text ++ ": Numerical result out of range") c
    | some width =>
      let f : Folding := ⟨width, a.has 's', a.has 'b'⟩
      (forContents c a.operands plainComplaint (Effect.nothing c) fun e _ text =>
        e.out (String.ofList ((['\n'] : List Char).intercalate
          ((text.toList.splitOn '\n').map f.line)))).held

/-- Turn tabs into blanks. `stops` says where the next stop is. -/
def expandTabs (next : Nat → Nat) (leading : Bool) : List Char → Nat → Bool → List Char
  | [], _, _ => []
  | '\n' :: rest, _, _ => '\n' :: expandTabs next leading rest 0 true
  | '\t' :: rest, column, front =>
    if leading && !front then '\t' :: expandTabs next leading rest (next column) front
    else
      List.replicate (next column - column) ' ' ++ expandTabs next leading rest (next column) front
  | c :: rest, column, front =>
    c :: expandTabs next leading rest (columnAfter column c) (front && c = ' ')

/-- Where the next tab stop is, by a list of stops; one stop is repeated. -/
def nextStop (stops : List Nat) (column : Nat) : Nat :=
  match stops with
  | [] => column + 8 - column % 8
  | [size] => column + size - column % (max size 1)
  | stops => (stops.find? (column < ·)).getD (column + 1)

/-- Read a list of tab stops. -/
def tabStops? (text : String) : Except String (List Nat) :=
  let pieces := (text.toList.splitOnP fun c => c = ',' || c = ' ').filter fun piece => !piece.isEmpty
  pieces.mapM fun piece =>
    if !piece.all Char.isDigit then
      .error ("tab size contains invalid character(s): "
        ++ escaped (String.ofList (piece.dropWhile Char.isDigit)))
    else
      match Numeral.ofDigits 10 piece with
      | 0 => .error "tab size cannot be 0"
      | n => .ok n

/-- Turn tabs into blanks. -/
def expand : Tool := withOptions ⟨"0it:", [("initial", 'i'), ("tabs", 't')], [], true⟩ 1 fun a c =>
  let list := ",".intercalate ((a.given.filter fun g => g.1 ≠ 'i').map Prod.snd)
  match tabStops? list with
  | .error text => refuses 1 text c
  | .ok stops =>
    (forContents c a.operands plainComplaint (Effect.nothing c) fun e _ text =>
      e.out (String.ofList (expandTabs (nextStop stops) (a.has 'i') text.toList 0 true))).held

/-- Turn blanks into tabs in a line: all runs that reach a stop, or only those in front. The blanks
that have not been written yet are counted. -/
def collapseBlanks (next : Nat → Nat) (all : Bool) : List Char → Nat → List Char → List Char
  | [], _, blanks => blanks.reverse
  | c :: rest, column, blanks =>
    if c = ' ' || c = '\t' then
      let after := if c = '\t' then next column else column + 1
      if c = '\t' || (after = next column && !blanks.isEmpty) then
        '\t' :: collapseBlanks next all rest after []
      else if after = next column then
        collapseBlanks next all rest after (' ' :: blanks)
      else collapseBlanks next all rest after (' ' :: blanks)
    else
      blanks.reverse ++ c ::
        (if all then collapseBlanks next all rest (columnAfter column c) [] else rest)

/-- Turn blanks into tabs. -/
def unexpand : Tool :=
  withOptions ⟨"0at:f", [("all", 'a'), ("tabs", 't'), ("first-only", 'f')], [], true⟩ 1 fun a c =>
    match tabStops? (",".intercalate ((a.values 't'))) with
    | .error text => refuses 1 text c
    | .ok stops =>
      let all := (a.has 'a' || a.has 't') && !a.has 'f'
      (forContents c a.operands plainComplaint (Effect.nothing c) fun e _ text =>
        e.out (String.ofList ((['\n'] : List Char).intercalate ((text.toList.splitOn '\n').map
          fun line => collapseBlanks (nextStop stops) all line 0 [])))).held

/-! ## Numbers in front -/

/-- Which lines get a number. -/
inductive Numbered where
  | all
  | full
  | none
  | matching (r : Regex)

/-- Read which lines get a number. -/
def Numbered.read? (text : String) : Except String (Option Numbered) :=
  match text.toList with
  | ['a'] => .ok (some .all)
  | ['t'] => .ok (some .full)
  | ['n'] => .ok (some .none)
  | 'p' :: pattern =>
    match Regex.read (.plain false) (String.ofList pattern) with
    | .ok (r, _) => .ok (some (.matching r))
    | .error fault => .error fault.words
  | _ => .ok Option.none

/-- Whether a line gets a number. -/
def Numbered.holds (n : Numbered) (line : String) : Bool :=
  match n with
  | .all => true
  | .full => !line.isEmpty
  | .none => false
  | .matching r => (Regex.search (.ofText false false line.toList) r 0).isSome

/-- How lines are numbered. -/
structure Numbering where
  header : Numbered
  body : Numbered
  footer : Numbered
  start : Int
  increment : Int
  width : Nat
  separator : String
  style : String

/-- Write a number. -/
def Numbering.number (n : Numbering) (value : Int) : String :=
  let text := toString value
  let missing := n.width - text.length
  match n.style with
  | "ln" => text ++ "".pushn ' ' missing
  | "rz" =>
    (if value < 0 then "-" else "") ++ "".pushn '0' missing ++ toString value.natAbs
  | _ => "".pushn ' ' missing ++ text

/-- Number lines. The part of the page that they are in comes first. -/
def Numbering.lines (n : Numbering) : List String → Numbered → Int → List String
  | [], _, _ => []
  | "\\:\\:\\:" :: rest, _, _ => "" :: n.lines rest n.header n.start
  | "\\:\\:" :: rest, _, value => "" :: n.lines rest n.body value
  | "\\:" :: rest, _, value => "" :: n.lines rest n.footer value
  | line :: rest, part, value =>
    if part.holds line then
      (n.number value ++ n.separator ++ line) :: n.lines rest part (value + n.increment)
    else ("".pushn ' ' (n.width + n.separator.length) ++ line) :: n.lines rest part value

/-- Write lines with numbers. -/
def nl : Tool :=
  let options : Options := ⟨"b:h:f:d:i:l:n:ps:v:w:", [("body-numbering", 'b'),
    ("header-numbering", 'h'), ("footer-numbering", 'f'), ("line-increment", 'i'),
    ("number-format", 'n'), ("number-separator", 's'), ("starting-line-number", 'v'),
    ("number-width", 'w')], [], true⟩
  withOptions options 1 fun a c =>
    let part (letter : Char) (usual : Numbered) (name : String) : Except (Bool × String) Numbered :=
      match a.value? letter with
      | none => .ok usual
      | some text =>
        match Numbered.read? text with
        | .ok (some n) => .ok n
        | .ok none => .error (true, "invalid " ++ name ++ " numbering style: " ++ escaped text)
        | .error words => .error (false, words)
    let number (letter : Char) (usual : Int) (what : String) : Except (Bool × String) Int :=
      match a.value? letter with
      | none => .ok usual
      | some text =>
        match text.toInt? with
        | some n => .ok n
        | none => .error (false, "invalid " ++ what ++ ": " ++ escaped text)
    let numbering : Except (Bool × String) Numbering := do
      let style := (a.value? 'n').getD "rn"
      if !(["ln", "rn", "rz"].contains style) then
        throw (true, "invalid line numbering format: " ++ escaped style)
      .ok ⟨← part 'h' .none "header", ← part 'b' .full "body", ← part 'f' .none "footer",
        ← number 'v' 1 "starting line number", ← number 'i' 1 "line number increment",
        (← number 'w' 6 "line number field width").toNat, (a.value? 's').getD "\t", style⟩
    match numbering with
    | .error (true, text) => misused 1 text c
    | .error (false, text) => refuses 1 text c
    | .ok n =>
      let (contents, e) := readAll c a.operands plainComplaint
      let text := contents.flatMap fun (_, text) => (lines text).1
      (e.out (unlines (n.lines text n.body n.start))).held

/-! ## Counting -/

/-- Counts of a text. -/
structure Counts where
  lines : Nat
  words : Nat
  octets : Nat
  longest : Nat
  deriving Repr, DecidableEq

/-- The number of words in a text. `inside` says that the text goes on in a word. -/
def countWords : Bool → List Char → Nat
  | _, [] => 0
  | inside, c :: rest =>
    if CharClass.isSpace c then countWords false rest
    else if inside || !isPrintable c then countWords inside rest
    else countWords true rest + 1

/-- Count a text. -/
def Counts.of (text : List Char) : Counts :=
  let widthOf (line : List Char) : Nat := line.foldl (fun column c =>
    if c = '\t' then columnAfter column c else if isPrintable c then column + 1 else column) 0
  let longest := ((text.splitOnP fun c => c = '\n' || c = '\r' || c = '\x0c').map widthOf).foldl max 0
  ⟨text.count '\n', countWords false text, text.length, longest⟩

/-- All counts together. -/
def Counts.add (a b : Counts) : Counts :=
  ⟨a.lines + b.lines, a.words + b.words, a.octets + b.octets, max a.longest b.longest⟩

/-- Count lines, words and more. -/
def wc : Tool :=
  let options : Options := ⟨"clLmw", [("bytes", 'c'), ("chars", 'm'), ("lines", 'l'),
    ("words", 'w'), ("max-line-length", 'L')], [], true⟩
  withOptions options 1 fun a c =>
    let wanted (letter : Char) : Bool :=
      a.has letter || (a.given.isEmpty && ['l', 'w', 'c'].contains letter)
    let columns := ['l', 'w', 'm', 'c', 'L'].filter wanted
    let values (n : Counts) : List Nat := columns.map fun
      | 'l' => n.lines
      | 'w' => n.words
      | 'L' => n.longest
      | _ => n.octets
    let operands := if a.operands.isEmpty then ["-"] else a.operands
    let sizeOf (path : String) : Option (Option Nat) :=
      if isInput c path then some (if c.fromFile then some c.input.length else none)
      else
        match c.disk.find c.cwd path with
        | .ok node =>
          some (if node.isFile then (Disk.contentOf node).toOption.map String.length else none)
        | .error _ => none
    let sizes := operands.filterMap sizeOf
    let width :=
      if operands.length = 1 && columns.length = 1 then 1
      else
        max (if sizes.contains none then 7 else 1)
          (toString ((sizes.filterMap id).foldl (· + ·) 0)).length
    let write (e : Effect) (n : Counts) (name : String) : Effect :=
      let fields := (values n).map fun value =>
        let text := toString value
        "".pushn ' ' (width - text.length) ++ text
      e.line (" ".intercalate fields ++ (if name.isEmpty then "" else " " ++ name))
    let named (path : String) : String := if a.operands.isEmpty then "" else shown path
    let (e, total) := operands.foldl (fun (e, total) path =>
      match contentOf c e path with
      | .ok text =>
        let n := Counts.of text.toList
        (write (if isInput c path then e.takeAll c else e) n (named path), total.add n)
      | .error .isDirectory =>
        (write (e.complain c.name 1 (plainComplaint path .isDirectory)) ⟨0, 0, 0, 0⟩ (named path),
          total)
      | .error trouble => (e.complain c.name 1 (plainComplaint path trouble), total))
      (Effect.nothing c, (⟨0, 0, 0, 0⟩ : Counts))
    (if 1 < operands.length then write e total "total" else e).held

end CSharpBuild.Machine.Tool
