/-
Tools about the order of lines: sorting them, looking for those that are repeated, and comparing
files line by line or byte by byte.
-/
import CSharpBuild.Machine.Tool.Copying
import CSharpBuild.Machine.Tool.SortKey

namespace CSharpBuild.Machine.Tool

open Text

/-! ## Sorting -/

/-- How lines are sorted. -/
structure Sorting where
  keys : List SortKey
  /-- The letters of the order of whole lines. -/
  letters : List Char
  separator : Option Char
  unique : Bool
  stable : Bool

/-- Compare lines by their keys only. -/
def Sorting.compareKeys (s : Sorting) (a b : List Char) : Ordering :=
  if s.keys.isEmpty then
    let seen (line : List Char) : List Char :=
      if s.letters.contains 'b' then line.dropWhile isFieldGap else line
    if s.letters.all fun c => c = 'r' then .eq
    else SortKey.compareBy s.letters (seen a) (seen b)
  else
    s.keys.foldl (fun order k =>
      match order with
      | .eq =>
        -- A key without letters of its own has those of whole lines.
        let letters := if k.letters.isEmpty then s.letters else k.letters
        let blanks := k.letters.isEmpty && s.letters.contains 'b'
        let start := { k.start with skipsBlanks := k.start.skipsBlanks || blanks }
        let stop := k.stop.map fun e => { e with skipsBlanks := e.skipsBlanks || blanks }
        let k := { k with start := start, stop := stop }
        SortKey.compareBy letters (k.of s.separator a) (k.of s.separator b)
      | order => order) .eq

/-- Compare lines. Those with equal keys are compared as a whole, unless they are to stay. -/
def Sorting.compare (s : Sorting) (a b : List Char) : Ordering :=
  let plain := s.keys.isEmpty && s.letters.all fun c => c = 'r'
  match s.compareKeys a b with
  | .eq =>
    if (s.stable || s.unique) && !plain then .eq
    else
      let order := Ord.compare (String.ofList a) (String.ofList b)
      if s.letters.contains 'r' then order.swap else order
  | order => order

/-- Drop lines that are equal to the one before. -/
def Sorting.once (s : Sorting) : List (List Char) → List (List Char)
  | a :: b :: rest =>
    if s.compare a b = .eq then s.once (a :: rest) else a :: s.once (b :: rest)
  | lines => lines
  termination_by lines => lines.length

/-- Sort lines. -/
def Sorting.sort (s : Sorting) (lines : List (List Char)) : List (List Char) :=
  let sorted := lines.mergeSort fun a b => s.compare a b ≠ .gt
  if s.unique then s.once sorted else sorted

/-- The first line that is not where it belongs, with its number. -/
def Sorting.misplaced? (s : Sorting) : Nat → List (List Char) → Option (Nat × List Char)
  | n, a :: b :: rest =>
    let order := s.compare a b
    if order = .gt || (s.unique && order = .eq) then some (n + 1, b)
    else s.misplaced? (n + 1) (b :: rest)
  | _, _ => none

/-- Letters that cannot go together. -/
def clash? (letters : List Char) : Option String :=
  let kinds := ['g', 'h', 'M', 'n'].filter letters.contains
  let texts := ['d', 'i'].filter letters.contains
  let versions := if letters.contains 'V' || letters.contains 'R' then 1 else 0
  if 1 < kinds.length + versions || (!texts.isEmpty && !kinds.isEmpty) then
    some ("options '-" ++ String.ofList ("dfghiMnRV".toList.filter fun c =>
      letters.contains c && c ≠ 'f') ++ "' are incompatible")
  else none

/-- Sort the lines of files. -/
def sort : Tool :=
  let options : Options := ⟨"bcCdfghik:mMnRrsS:t:T:uo:Vz", [("ignore-leading-blanks", 'b'),
    ("check", 'c'), ("dictionary-order", 'd'), ("ignore-case", 'f'),
    ("general-numeric-sort", 'g'), ("human-numeric-sort", 'h'), ("ignore-nonprinting", 'i'),
    ("key", 'k'), ("merge", 'm'), ("month-sort", 'M'), ("numeric-sort", 'n'), ("output", 'o'),
    ("reverse", 'r'), ("stable", 's'), ("field-separator", 't'), ("unique", 'u'),
    ("version-sort", 'V'), ("zero-terminated", 'z')], ['c'], true⟩
  withOptions options 2 fun a c =>
    let letters := (a.given.map Prod.fst).filter fun l => "bdfghiMnrV".toList.contains l
    let prepared : Except String Sorting := do
      let keys ← (a.values 'k').mapM SortKey.read
      let separator ← match (a.values 't').getLast? with
        | none => pure none
        | some "\\0" => pure (some '\x00')
        | some text =>
          match text.toList with
          | [] => throw "empty tab"
          | [c] => pure (some c)
          | _ => throw ("multi-character tab " ++ escaped text)
      match (keys.map SortKey.letters ++ [letters]).findSome? clash? with
      | some words => throw words
      | none => pure ⟨keys, letters, separator, a.has 'u', a.has 's'⟩
    match prepared with
    | .error text => refuses 2 text c
    | .ok s =>
      let ending := if a.has 'z' then '\x00' else '\n'
      let operands := if a.operands.isEmpty then ["-"] else a.operands
      let checks := a.has 'c' || a.has 'C'
      let linesOf (text : String) : List (List Char) :=
        let all := text.toList.splitOn ending
        if all.getLast? = some [] then all.dropLast else all
      match checks, operands with
      | true, _ :: extra :: _ =>
        refuses 2 ("extra operand " ++ quoted extra ++ " not allowed with -c") c
      | _, _ =>
        let trouble? := operands.findSome? fun path =>
          match contentOf c (Effect.nothing c) path with
          | .ok _ => none
          | .error .isDirectory => some ("read failed: " ++ shown path ++ ": Is a directory")
          | .error trouble =>
            some ((if checks then "open failed: " else "cannot read: ") ++ shown path ++ ": "
              ++ trouble.words)
        match trouble? with
        | some text => refuses 2 text c
        | none =>
          let (contents, e) := readAll c operands plainComplaint
          let lines := contents.flatMap fun (_, text) => linesOf text
          if checks then
            match s.misplaced? 1 lines with
            | none => e
            | some (number, line) =>
              if a.has 'C' || ["quiet", "silent"].contains ((a.value? 'c').getD "") then
                { e with status := 1 }
              else e.complain c.name 1 (shown (operands.headD "") ++ ":" ++ toString number
                ++ ": disorder: " ++ String.ofList line)
          else
            let text := String.ofList ((s.sort lines).flatMap (· ++ [ending]))
            match a.value? 'o' with
            | none => e.out text
            | some path =>
              match e.disk.update c.cwd path fun _ => text with
              | .ok disk => { e with disk := disk }
              | .error trouble =>
                e.complain c.name 2 ("open failed: " ++ shown path ++ ": " ++ trouble.words)

/-! ## Repeated lines -/

/-- Equal lines next to each other, together. -/
def runs (same : List Char → List Char → Bool) : List (List Char) → List (List (List Char))
  | [] => []
  | line :: rest =>
    match runs same rest with
    | (next :: more) :: groups =>
      if same line next then (line :: next :: more) :: groups
      else [line] :: (next :: more) :: groups
    | groups => [line] :: groups

/-- Write lines that are repeated only once. -/
def uniq : Tool :=
  let options : Options := ⟨"0cdDf:is:uw:z", [("count", 'c'), ("repeated", 'd'),
    ("all-repeated", 'D'), ("skip-fields", 'f'), ("ignore-case", 'i'), ("skip-chars", 's'),
    ("unique", 'u'), ("check-chars", 'w'), ("zero-terminated", 'z')], ['D'], true⟩
  withOptions options 1 fun a c =>
    let number (letter : Char) (words : String) : Except String (Option Nat) :=
      match a.value? letter with
      | none => .ok none
      | some text =>
        if text.toList.all Char.isDigit && !text.isEmpty then
          .ok (some (Numeral.ofDigits 10 text.toList))
        else .error (text ++ ": invalid number of " ++ words)
    let numbers : Except String (Option Nat × Option Nat × Option Nat) := do
      .ok (← number 'f' "fields to skip", ← number 's' "bytes to skip",
        ← number 'w' "bytes to compare")
    match numbers, a.operands with
    | .error text, _ => refuses 1 text c
    | _, _ :: _ :: extra :: _ => misused 1 ("extra operand " ++ quoted extra) c
    | .ok (fields, chars, width), operands =>
      let ending := if a.has 'z' then '\x00' else '\n'
      let key (line : List Char) : List Char :=
        let rest := (SortKey.skipFields none true (fields.getD 0) line).drop (chars.getD 0)
        let part := match width with
          | some width => rest.take width
          | none => rest
        if a.has 'i' then part.map Char.toUpper else part
      let input := operands.headD "-"
      let complaint (path : String) : Trouble → String
        | .isDirectory => "error reading " ++ quoted path ++ ": " ++ Trouble.isDirectory.words
        | trouble => plainComplaint path trouble
      match contentOf c (Effect.nothing c) input with
      | .error trouble => refuses 1 (complaint input trouble) c
      | .ok text =>
        let all := text.toList.splitOn ending
        let lines := if all.getLast? = some [] then all.dropLast else all
        let groups := runs (fun a b => key a = key b) lines
        let write (group : List (List Char)) : List (List Char) :=
          let count := group.length
          if a.has 'D' then (if 1 < count then group else [])
          else if (a.has 'd' && count = 1) || (a.has 'u' && 1 < count) then []
          else
            let digits := (toString count).toList
            let front := if a.has 'c' then
              List.replicate (7 - digits.length) ' ' ++ digits ++ [' '] else []
            (group.take 1).map (front ++ ·)
        let text := String.ofList ((groups.flatMap write).flatMap (· ++ [ending]))
        let e := Effect.nothing c
        let e := if isInput c input then e.takeAll c else e
        match operands with
        | [_, output] =>
          if output = "-" then e.out text
          else
            match e.disk.update c.cwd output fun _ => text with
            | .ok disk => { e with disk := disk }
            | .error trouble => e.complain c.name 1 (plainComplaint output trouble)
        | _ => e.out text

/-! ## Comparing -/

/-- Two files to compare, as a tool finds them. -/
def twoContents (c : Call) (left right : String) (complaint : String → Trouble → String) :
    Except String (String × String) := do
  let read (path : String) : Except String String :=
    match contentOf c (Effect.nothing c) path with
    | .ok text => .ok text
    | .error trouble => .error (complaint path trouble)
  .ok (← read left, ← read right)

/-- Sort the lines of two sorted texts into three columns: those that are in the first only, in the
second only, and in both. -/
def columnsOf : List String → List String → List (Nat × String)
  | [], right => right.map ((2, ·))
  | left, [] => left.map ((1, ·))
  | a :: left, b :: right =>
    if a = b then (3, a) :: columnsOf left right
    else if a < b then (1, a) :: columnsOf left (b :: right)
    else (2, b) :: columnsOf (a :: left) right
  termination_by left right => left.length + right.length

/-- Write which lines two sorted files have in common, and which not. -/
def comm : Tool := fun c =>
  let options : Options := ⟨"123zO:N", [("nocheck-order", 'N'), ("output-delimiter", 'O')], [], true⟩
  withOptions options 1 (fun a c =>
    match a.operands with
    | [] => misused 1 "missing operand" c
    | [one] => misused 1 ("missing operand after " ++ quoted one) c
    | _ :: _ :: extra :: _ => misused 1 ("extra operand " ++ quoted extra) c
    | [left, right] =>
      match twoContents c left right plainComplaint with
      | .error text => refuses 1 text c
      | .ok (first, second) =>
        let (first, second) := ((lines first).1, (lines second).1)
        let delimiter := (a.value? 'O').getD "\t"
        let hidden (column : Nat) : Bool := a.has (Nat.digitChar column)
        let front (column : Nat) : String :=
          String.join (((List.range (column - 1)).filter fun i => !hidden (i + 1)).map
            fun _ => delimiter)
        let rows := (columnsOf first second).filter fun (column, _) => !hidden column
        let text := unlines (rows.map fun (column, line) => front column ++ line)
        let isSorted (lines : List String) : Bool :=
          (lines.zip lines.tail).all fun (a, b) => a ≤ b
        let e := Effect.nothing c
        let e := if [left, right].any (isInput c) then e.takeAll c else e
        let e := e.out text
        let unsorted := [(1, first), (2, second)].filter fun (_, lines) => !isSorted lines
        if unsorted.isEmpty || a.has 'N' || first = second then e
        else
          let e := unsorted.foldl (fun e (number, _) =>
            e.complain c.name 1 ("file " ++ toString number ++ " is not in sorted order")) e
          (e.complain c.name 1 "input is not in sorted order").held) c

/-- The first byte, from zero on, at which two texts differ. -/
def firstDifference (a b : List Char) : Nat := ((a.zip b).takeWhile fun (x, y) => x = y).length

/-- The hint of tools that put their name in front of it. -/
def namedHint (e : Effect) (c : Call) (status : Nat) : Effect := e.complain c.name status (hint c)

/-- Compare files byte by byte. -/
def cmp : Tool := fun c =>
  let options : Options := ⟨"bi:ln:s", [("silent", 's'), ("quiet", 's'), ("verbose", 'l')], [], true⟩
  let misuse (text : String) : Effect := namedHint ((Effect.nothing c).complain c.name 2 text) c 2
  match options.read c.args with
  | .error m => misuse m.words
  | .ok a =>
    match a.operands with
    | [] => misuse ("missing operand after " ++ escaped c.name)
    | _ :: _ :: extra :: _ => misuse ("extra operand " ++ escaped extra)
    | left :: rest =>
      let right := rest.headD "-"
      match twoContents c left right fun path trouble => path ++ ": " ++ trouble.words with
      | .error text => refuses 2 text c
      | .ok (first, second) =>
        let (x, y) := (first.toList, second.toList)
        let i := firstDifference x y
        let e := Effect.nothing c
        let e := if [left, right].any (isInput c) then e.takeAll c else e
        if x = y then e
        else if a.has 's' then { e with status := 1 }
        else
          let common := min x.length y.length
          let before := x.take i
          let shorter := if x.length < y.length then left else right
          let ended (e : Effect) : Effect :=
            let words := if common = 0 then " which is empty"
              else if a.has 'l' then " after byte " ++ toString common
              else " after byte " ++ toString common ++
                (if (x.take common).getLast? = some '\n' then
                  ", line " ++ toString ((x.take common).count '\n')
                else ", in line " ++ toString ((x.take common).count '\n' + 1))
            e.complain c.name 1 ("EOF on " ++ shorter ++ words)
          if a.has 'l' then
            let width := (toString (max x.length y.length)).length
            let padded (width : Nat) (text : String) : String :=
              "".pushn ' ' (width - text.length) ++ text
            let octal (c : Char) : String := padded 3 (String.ofList (Nat.toDigits 8 c.toNat))
            let rows := (((x.zip y).zipIdx 1).filter fun ((p, q), _) => p ≠ q).map
              fun ((p, q), position) =>
                padded width (toString position) ++ " " ++ octal p ++ " " ++ octal q
            let e := { e.out (unlines rows) with status := 1 }
            if x.length = y.length then e else ended e
          else if i = common then ended e
          else
            { e.line (left ++ " " ++ right ++ " differ: char " ++ toString (i + 1) ++ ", line "
                ++ toString (before.count '\n' + 1)) with status := 1 }

/-- The length of the longest lines in common, for each rest of the right side, with one more line
on the left side. -/
def commonRow {α : Type} [BEq α] (line : α) : List α → List Nat → List Nat
  | b :: right, below :: rest =>
    let row := commonRow line right rest
    (if line == b then rest.headD 0 + 1 else max below (row.headD 0)) :: row
  | _, _ => [0]

/-- A step from one list of lines to another. -/
inductive Change where
  | keep
  | delete
  | insert
  deriving Repr, DecidableEq

/-- Walk through two lists along the longest lines in common. `rows` has a row for each rest of the
left side. Each step takes a line, so `fuel` is the number of lines. -/
def changes {α : Type} [BEq α] : Nat → List α → List α → List (List Nat) → List Change
  | 0, _, _, _ => []
  | _ + 1, [], right, _ => right.map fun _ => .insert
  | _ + 1, left, [], _ => left.map fun _ => .delete
  | fuel + 1, a :: left, b :: right, rows =>
    let here := rows.headD []
    let below := rows.tail.headD []
    if a == b then .keep :: changes fuel left right (rows.tail.map List.tail)
    else if here.tail.headD 0 ≤ below.headD 0 then
      .delete :: changes fuel left (b :: right) rows.tail
    else .insert :: changes fuel (a :: left) right (rows.map List.tail)

/-- How to get from one list of lines to another. -/
def changesBetween {α : Type} [BEq α] (left right : List α) : List Change :=
  let rows := left.foldr (fun line rows =>
    commonRow line right (rows.headD []) :: rows) [List.replicate (right.length + 1) 0]
  changes (left.length + right.length + 1) left right rows

/-- A place where lines differ: the lines before it and the lines that it has, on both sides. -/
structure Hunk where
  leftStart : Nat
  leftCount : Nat
  rightStart : Nat
  rightCount : Nat
  deriving Repr, DecidableEq

/-- Put changes next to each other together. -/
def hunks : List Change → Nat → Nat → Option Hunk → List Hunk
  | [], _, _, hunk => hunk.toList
  | .keep :: rest, left, right, hunk => hunk.toList ++ hunks rest (left + 1) (right + 1) none
  | change :: rest, left, right, hunk =>
    let h := hunk.getD ⟨left, 0, right, 0⟩
    if change = .delete then
      hunks rest (left + 1) right (some { h with leftCount := h.leftCount + 1 })
    else hunks rest left (right + 1) (some { h with rightCount := h.rightCount + 1 })

/-- Write the differences of two texts. -/
def differences (key : String → String) (first second : String) : String :=
  let (left, leftOpen) := lines first
  let (right, rightOpen) := lines second
  let marked (lines : List String) (isOpen : Bool) : List String :=
    (lines.zipIdx 1).map fun (line, i) =>
      key line ++ (if isOpen && i = lines.length then "\n" else "")
  let found := hunks (changesBetween (marked left leftOpen) (marked right rightOpen)) 0 0 none
  let span (start count : Nat) : String :=
    if count = 0 then toString start
    else if count = 1 then toString (start + 1)
    else toString (start + 1) ++ "," ++ toString (start + count)
  let side (sign : String) (lines : List String) (isOpen : Bool) (start count : Nat) : String :=
    String.join (((lines.zipIdx 1).drop start).take count |>.map fun (line, i) =>
      sign ++ " " ++ line ++ "\n" ++
        (if isOpen && i = lines.length then "\\ No newline at end of file\n" else ""))
  String.join (found.map fun h =>
    let letter := if h.leftCount = 0 then "a" else if h.rightCount = 0 then "d" else "c"
    span h.leftStart h.leftCount ++ letter ++ span h.rightStart h.rightCount ++ "\n"
      ++ side "<" left leftOpen h.leftStart h.leftCount
      ++ (if letter = "c" then "---\n" else "")
      ++ side ">" right rightOpen h.rightStart h.rightCount)

/-- Compare files line by line. -/
def diff : Tool := fun c =>
  let options : Options := ⟨"bBiqrsw", [("brief", 'q'), ("report-identical-files", 's'),
    ("ignore-case", 'i'), ("ignore-all-space", 'w'), ("ignore-space-change", 'b'),
    ("recursive", 'r')], [], true⟩
  let misuse (text : String) : Effect := namedHint ((Effect.nothing c).complain c.name 2 text) c 2
  match options.read c.args with
  | .error m => misuse m.words
  | .ok a =>
    match a.operands with
    | [] => misuse ("missing operand after " ++ escaped c.name)
    | [one] => misuse ("missing operand after " ++ escaped one)
    | _ :: _ :: extra :: _ => misuse ("extra operand " ++ escaped extra)
    | [left, right] =>
      let isDirectory (path : String) : Bool := (c.disk.find c.cwd path) matches .ok .directory
      let inside (directory file : String) : String :=
        directory ++ "/" ++ String.ofList (file.toList.reverse.takeWhile (· ≠ '/')).reverse
      let (left, right) :=
        match isDirectory left, isDirectory right with
        | true, false => (inside left right, right)
        | false, true => (left, inside right left)
        | _, _ => (left, right)
      match twoContents c left right fun path trouble => path ++ ": " ++ trouble.words with
      | .error text => refuses 2 text c
      | .ok (first, second) =>
        let key (line : String) : String :=
          let line := if a.has 'i' then line.toLower else line
          if a.has 'w' then String.ofList (line.toList.filter fun c => !CharClass.isSpace c)
          else if a.has 'b' then
            " ".intercalate (((line.toList.splitOnP CharClass.isSpace).filter (!·.isEmpty)).map
              String.ofList)
          else line
        let text := differences key first second
        let e := Effect.nothing c
        let e := if [left, right].any (isInput c) then e.takeAll c else e
        if text.isEmpty then
          if a.has 's' then e.line ("Files " ++ left ++ " and " ++ right ++ " are identical") else e
        else if a.has 'q' then
          { e.line ("Files " ++ left ++ " and " ++ right ++ " differ") with status := 1 }
        else { e.out text with status := 1 }

end CSharpBuild.Machine.Tool
