/-
Tools that pass on what they read, or some part of it: whole files, their first or last lines, and
their lines from the last to the first or from the right to the left.
-/
import CSharpBuild.Machine.Tool

namespace CSharpBuild.Machine.Tool

/-! ## Whole files -/

/-- How `cat` shows what it copies. -/
structure Showing where
  numbers : Bool
  /-- Whether only lines with something in them have a number. -/
  numbersFull : Bool
  squeezes : Bool
  ends : Bool
  tabs : Bool
  codes : Bool

/-- A character, or a code for it. -/
def Showing.char (s : Showing) (c : Char) : List Char :=
  let control (n : Nat) : List Char :=
    if n < 32 then ['^', Char.ofNat (n + 64)] else if n = 127 then ['^', '?'] else [Char.ofNat n]
  if c = '\t' then (if s.tabs then ['^', 'I'] else [c])
  else if s.codes then
    let n := c.toNat
    if n < 128 then control n else 'M' :: '-' :: control (n - 128)
  else [c]

/-- Where `cat` is in its lines. -/
structure Copied where
  /-- The number of the last line that has one. -/
  number : Nat
  /-- How many empty lines there were just now. -/
  emptyLines : Nat
  atLineStart : Bool

/-- A number in front of a line. -/
def lineNumber (n : Nat) : List Char :=
  let digits := (toString n).toList
  List.replicate (6 - digits.length) ' ' ++ digits ++ ['\t']

/-- Copy a text. What was copied comes out in reverse order. -/
def Showing.copy (s : Showing) : List Char → Copied → List Char → List Char × Copied
  | [], at_, copied => (copied, at_)
  | '\n' :: rest, at_, copied =>
    if at_.atLineStart then
      if s.squeezes && 1 ≤ at_.emptyLines then s.copy rest at_ copied
      else
        let number := at_.number + 1
        let counts := s.numbers && !s.numbersFull
        let copied := if counts then (lineNumber number).reverse ++ copied else copied
        s.copy rest
          { at_ with
            number := if counts then number else at_.number
            emptyLines := at_.emptyLines + 1 }
          ('\n' :: (if s.ends then '$' :: copied else copied))
    else s.copy rest { at_ with atLineStart := true, emptyLines := 0 }
      ('\n' :: (if s.ends then '$' :: copied else copied))
  | c :: rest, at_, copied =>
    let counts := at_.atLineStart && s.numbers
    let number := if counts then at_.number + 1 else at_.number
    let copied := if counts then (lineNumber number).reverse ++ copied else copied
    s.copy rest ⟨number, 0, false⟩ ((s.char c).reverse ++ copied)

/-- Copy files. -/
def cat : Tool :=
  let options : Options := ⟨"AbeEnstTuv", [("show-all", 'A'), ("number-nonblank", 'b'),
    ("show-ends", 'E'), ("number", 'n'), ("squeeze-blank", 's'), ("show-tabs", 'T'),
    ("show-nonprinting", 'v')], [], true⟩
  withOptions options 1 fun a c =>
    let s : Showing :=
      ⟨a.has 'n' || a.has 'b', a.has 'b', a.has 's', a.has 'A' || a.has 'e' || a.has 'E',
        a.has 'A' || a.has 't' || a.has 'T', ['A', 'e', 't', 'v'].any a.has⟩
    if a.given.all fun g => g.1 = 'u' then
      forContents c a.operands plainComplaint (Effect.nothing c) fun e _ text => e.out text
    else
      let operands := if a.operands.isEmpty then ["-"] else a.operands
      (operands.foldl (fun (e, at_) path =>
        match contentOf c e path with
        | .ok text =>
          let (copied, at_) := s.copy text.toList at_ []
          ((if isInput c path then e.takeAll c else e).out (String.ofList copied.reverse), at_)
        | .error trouble => (e.complain c.name 1 (plainComplaint path trouble), at_))
        (Effect.nothing c, (⟨0, 0, true⟩ : Copied))).1

/-- Copy the input to files as well. -/
def tee : Tool :=
  withOptions ⟨"aip", [("append", 'a'), ("ignore-interrupts", 'i')], [], true⟩ 1 fun a c =>
    let text := String.ofList c.input
    let e := a.operands.foldl (fun e path =>
      match e.disk.update c.cwd path fun before => if a.has 'a' then before ++ text else text with
      | .ok disk => { e with disk := disk }
      | .error trouble => e.complain c.name 1 (plainComplaint path trouble)) (Effect.nothing c)
    (e.out text).takeAll c

/-! ## Parts of files -/

/-- What a text is divided into. -/
inductive Measured where
  | lines
  | octets
  deriving Repr, DecidableEq

/-- Which part of a text is meant. -/
inductive Part where
  | first (count : Nat)
  | allButLast (count : Nat)
  | last (count : Nat)
  | startingAt (count : Nat)
  deriving Repr, DecidableEq

/-- Lines with their ends; the last one may have none. -/
def wholeLines (ending : Char) (text : List Char) : List (List Char) :=
  go text []
where
  /-- Go on behind the beginning of a line, which is given in reverse order. -/
  go : List Char → List Char → List (List Char)
    | [], [] => []
    | [], line => [line.reverse]
    | c :: rest, line =>
      if c = ending then (c :: line).reverse :: go rest [] else go rest (c :: line)

/-- Take a part of a list. -/
def Part.take {α : Type} (p : Part) (items : List α) : List α :=
  match p with
  | .first count => items.take count
  | .allButLast count => items.take (items.length - count)
  | .last count => items.drop (items.length - count)
  | .startingAt count => items.drop (count - 1)

/-- Take a part of a text. -/
def Part.of (p : Part) (measured : Measured) (ending : Char) (text : List Char) : List Char :=
  match measured with
  | .octets => p.take text
  | .lines => (p.take (wholeLines ending text)).flatten

/-- How a tool that takes parts of files goes about it. -/
structure Taking where
  part : Part
  measured : Measured
  ending : Char
  quiet : Bool
  verbose : Bool
  operands : List String

/-- The plain name of a file above its part. -/
def shownInput (c : Call) (path : String) : String :=
  if path = "-" && isInput c path then "standard input" else path

/-- Write parts of files. -/
def takeParts (t : Taking) : Tool := fun c =>
  let operands := if t.operands.isEmpty then ["-"] else t.operands
  let headed := t.verbose || (!t.quiet && 1 < operands.length)
  let (e, _) := operands.foldl (fun (e, shown) path =>
    let heading := (if shown then "\n" else "") ++ "==> " ++ shownInput c path ++ " <==\n"
    match contentOf c e path with
    | .ok text =>
      let e := if headed then e.out heading else e
      let chars := text.toList
      let part := t.part.of t.measured t.ending chars
      let e := if isInput c path then
          match t.part with
          | .first _ | .allButLast _ =>
            if c.fromFile then { e with taken := e.taken + part.length } else e.takeAll c
          | _ => e.takeAll c
        else e
      (e.out (String.ofList part), headed)
    | .error .isDirectory =>
      let e := if headed then e.out heading else e
      (e.complain c.name 1 ("error reading " ++ quoted path ++ ": " ++ Trouble.isDirectory.words),
        headed)
    | .error trouble =>
      (e.complain c.name 1 ("cannot open " ++ quoted path ++ " for reading: " ++ trouble.words),
        shown)) (Effect.nothing c, false)
  e.held

/-- What is said of a count that is none. -/
def countComplaint (measured : Measured) (text : String) : String :=
  (match measured with
    | .lines => "invalid number of lines: "
    | .octets => "invalid number of bytes: ") ++ escaped text

/-- Read which part is meant. -/
def readPart (isHead : Bool) (text : String) : Option Part :=
  let rest := (text.drop 1).toString
  match text.toList.head? with
  | some '-' => (count? rest).map (if isHead then .allButLast else .last)
  | some '+' => (count? rest).map (if isHead then .first else .startingAt)
  | _ => (count? text).map (if isHead then .first else .last)

/-- The options of `head` and `tail`. -/
def partOptions (anywhere : Bool) : Options :=
  ⟨"0n:c:qvzfFs:", [("lines", 'n'), ("bytes", 'c'), ("quiet", 'q'), ("silent", 'q'),
    ("verbose", 'v'), ("zero-terminated", 'z'), ("follow", 'f')], ['f'], anywhere⟩

/-- A count as it is given without an option: digits, a unit and what is counted. -/
def oldCount? (isHead : Bool) (sign : Char) (text : String) : Option (Part × Measured) :=
  let digits := text.toList.takeWhile Char.isDigit
  let n := if digits.isEmpty then 10 else Text.Numeral.ofDigits 10 digits
  let measured? : Option (Measured × Nat) :=
    match text.toList.drop digits.length with
    | [] | ['l'] | ['f'] | ['q'] | ['v'] => some (.lines, 1)
    | ['c'] => some (.octets, 1)
    | ['b'] => some (.octets, 512)
    | ['k'] => if isHead then some (.octets, 1024) else none
    | _ => none
  measured?.map fun (measured, unit) =>
    (if isHead then .first (n * unit) else if sign = '+' then .startingAt (n * unit)
      else .last (n * unit), measured)

/-- Write the first or the last part of files. -/
def headOrTail (isHead : Bool) : Tool := fun c =>
  let oldForm : Option (Part × Measured) :=
    match c.args.head?.map String.toList with
    | some ('+' :: d :: rest) =>
      if !isHead && d.isDigit then oldCount? false '+' (String.ofList (d :: rest)) else none
    | _ => none
  let args := if oldForm.isSome then c.args.tail else c.args
  withOptions (partOptions true) 1 (fun a c =>
    let usual : Part × Measured := oldForm.getD (if isHead then .first 10 else .last 10, .lines)
    let chosen := a.given.filter fun g => ['n', 'c', '0'].contains g.1
    let read : Except String (Part × Measured) :=
      chosen.foldlM (fun _ (letter, text) =>
        let measured : Measured := if letter = 'c' then .octets else .lines
        let found := if letter = '0' then oldCount? isHead '-' text
          else (readPart isHead text).map fun part => (part, measured)
        match found with
        | some found => .ok found
        | none => .error (countComplaint measured text)) usual
    match read with
    | .error complaint => refuses 1 complaint c
    | .ok (part, measured) =>
      let told := a.last? ['q', 'v']
      takeParts ⟨part, measured, if a.has 'z' then '\x00' else '\n', told = some 'q',
        told = some 'v', a.operands⟩ c) { c with args := args }

/-- Write the first part of files. -/
def head : Tool := headOrTail true

/-- Write the last part of files. -/
def tail : Tool := headOrTail false

/-! ## The other way round -/

/-- Write lines from the last to the first. -/
def tac : Tool := withOptions ⟨"brs:", [("separator", 's')], [], true⟩ 1 fun a c =>
  let complaint (path : String) : Trouble → String
    | .isDirectory => shown path ++ ": read error: Invalid argument"
    | trouble => "failed to open " ++ quoted path ++ " for reading: " ++ trouble.words
  let ending := (((a.value? 's').map String.toList).getD ['\n']).headD '\x00'
  (forContents c a.operands complaint (Effect.nothing c) fun e _ text =>
    e.out (String.ofList (wholeLines ending text.toList).reverse.flatten)).held

/-- Write each line from right to left. -/
def rev : Tool := withOptions (lettersOnly "0" true) 1 fun a c =>
  let complaint (path : String) : Trouble → String
    | trouble => "cannot open " ++ path ++ ": " ++ trouble.words
  let turned (line : List Char) : List Char :=
    match line.getLast? with
    | some '\n' => line.dropLast.reverse ++ ['\n']
    | _ => line.reverse
  forContents c a.operands complaint (Effect.nothing c) fun e _ text =>
    e.out (String.ofList ((wholeLines '\n' text.toList).flatMap turned))

end CSharpBuild.Machine.Tool
