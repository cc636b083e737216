/-
Values of programs that take records apart: numbers and texts. Where a number is needed, a text
counts as the number at its front, and what was read from the input is compared as a number if it
looks like one.
-/
import CSharpBuild.Machine.Format
import CSharpBuild.Machine.Launching.Awk.Pattern

namespace CSharpBuild.Machine.Launching.Awk

open Text

/-- A value. -/
inductive Value where
  | unset
  | number (value : Float)
  | text (text : String)
  /-- A text from outside, which may be meant as a number. -/
  | outer (text : String)
  deriving Inhabited

namespace Number

/-- Whether a character is a blank. -/
def isBlank (c : Char) : Bool := c = ' ' || c = '\t' || c = '\n'

/-- A number as an exact one; one that is none counts as negative. -/
def exact (x : Float) : Double := if x.isNaN then .nan true else .ofFloat x

/-- The number at the front of a text, and what is left. -/
def leading (text : List Char) : Float × List Char :=
  let digits := text.takeWhile Char.isDigit
  let rest := text.drop digits.length
  let isPlain := digits ≠ [] && digits.length ≤ 15 &&
    !(rest.head?.any fun c => c = '.' || c.isAlpha)
  if isPlain then (Float.ofNat (Numeral.ofDigits 10 digits), rest)
  else
    match Double.read? true text with
    | some read => (read.value.toFloat, read.rest)
    | none => (0, text)

/-- A text as a number. -/
def ofText (text : String) : Float := (leading text.toList).1

/-- The number that a text looks like: it begins like one, ends with a digit or a point, and has
nothing else but blanks around it. -/
def ofLook? (text : String) : Option Float :=
  let core := text.toList.dropWhile isBlank
  let start := core.head?.any fun c => c.isDigit || c = '+' || c = '-' || c = '.'
  if !start then none
  else
    let core := (core.reverse.dropWhile isBlank).reverse
    let last := core.getLast?.any fun c => c.isDigit || c = '.'
    if !last then none
    else
      match leading core with
      | (x, []) => if x.isInf then none else some x
      | _ => none

/-- The greatest whole number of a machine word with a sign. -/
def wordLimit : Nat := Nat.pow 2 63 - 1

/-- A number as a whole one, without its fraction and no further away than words go. -/
def toWhole (x : Float) : Int :=
  if x.isNaN then -(wordLimit + 1 : Nat)
  else if 9223372036854775807.0 <= x then x.toUInt64.toNat
  else if x <= -9223372036854775807.0 then -(wordLimit : Int)
  else x.toInt64.toInt

/-- The whole number that a number is, if it is one. -/
def whole? (x : Float) : Option Int :=
  if x.isNaN || x.isInf then none
  else
    let n := toWhole x
    if Float.ofInt n == x then some n else none

/-- What is left of a division whose quotient is whole, with the sign of the dividend. -/
def remainder (a b : Float) : Float :=
  match exact a, exact b with
  | .finite negative m e, .finite _ n f =>
    if n = 0 then 0.0 / 0.0
    else
      let least := min e f
      let scaled (m : Nat) (e : Int) : Nat := m * Nat.pow 2 (e - least).toNat
      let (up, down) := Double.fraction (scaled m e % scaled n f) least
      (Double.ofFraction negative up down).toFloat
  | .finite .., .infinite _ => a
  | _, _ => 0.0 / 0.0

end Number

/-! ## Formats -/

/-- What may be wrong with the use of a format. -/
inductive FormatFault where
  | missing
  | improper (number : Nat)
  deriving Repr, DecidableEq

namespace Value

/-- A value as a number. -/
def toNumber : Value → Float
  | .unset => 0
  | .number x => x
  | .text t | .outer t => Number.ofText t

/-- A value as a number, if it is one or looks like one. -/
def number? : Value → Option Float
  | .unset => some 0
  | .number x => some x
  | .text _ => none
  | .outer t => Number.ofLook? t

/-- Whether a value counts as true. -/
def isTrue : Value → Bool
  | .unset => false
  | .number x => x != 0
  | .text t => !t.isEmpty
  | .outer t =>
    match Number.ofLook? t with
    | some x => x != 0
    | none => !t.isEmpty

/-- Truth as a value. -/
def ofBool (b : Bool) : Value := .number (if b then 1 else 0)

end Value

namespace Layout

/-- What a conversion asks for: its layout as far as it is given, where the width and the precision
come from, how wide whole numbers are, and its letter. -/
structure Conversion where
  flags : List Char
  width : Option Format.Measure
  precision : Option Format.Measure
  sizes : List Char
  letter : Option Char

/-- Read a conversion behind its percent sign. -/
def conversion (text : List Char) : Conversion × List Char :=
  let flags := text.takeWhile fun c => ['-', '+', ' ', '0', '#'].contains c
  let (width, rest) := Format.measure (text.drop flags.length)
  let (precision, rest) : Option Format.Measure × List Char :=
    match rest with
    | '.' :: rest =>
      let (precision, rest) := Format.measure rest
      (some (precision.getD (.given 0)), rest)
    | rest => (none, rest)
  let sizes := rest.takeWhile fun c => c = 'h' || c = 'l'
  let rest := rest.drop sizes.length
  (⟨flags, width, precision, sizes, rest.head?⟩, rest.tail)

/-- A whole number in a narrower word. -/
def narrowed (sizes : List Char) (n : Int) : Int :=
  match sizes with
  | ['h'] => Int.bmod n 65536
  | ['h', 'h'] => Int.bmod n 256
  | _ => n

/-- Write a value; none if the letter is none of a conversion. `spelled` is how a value is written as
a text. -/
def converted? (spelled : Value → String) (c : Conversion) (l : Format.Layout) (v : Value) :
    Option (List Char) :=
  match c.letter with
  | none => none
  | some letter =>
    if letter = 's' then some (Format.writeText l (spelled v).toList)
    else if letter = 'c' then
      let number? : Option Float := match v with
        | .number x => some x
        | .outer t => Number.ofLook? t
        | _ => none
      let first := match number? with
        | some x => Char.ofNat (Number.toWhole x % 256).toNat
        | none => (spelled v).toList.headD '\x00'
      some (Format.pad l false [] [first])
    else if ['d', 'i'].contains letter then
      some (Format.writeWhole l letter (narrowed c.sizes (Number.toWhole v.toNumber)))
    else if ['o', 'x', 'X', 'u'].contains letter then
      some (Format.writeWhole l letter (Number.toWhole v.toNumber % Arithmetic.range))
    else if ['e', 'f', 'g', 'E', 'G'].contains letter && c.sizes.isEmpty then
      some (Format.writeFloat l letter (Number.exact v.toNumber))
    else none

/-- Write values by a format: what has been written, the last first, and what was wrong. Each step
takes a character, so `fuel` is the length of the format. -/
def writeWithin (spelled : Value → String) :
    Nat → List Char → List Value → Nat → List Char → List Char × Option FormatFault
  | 0, _, _, _, done => (done, none)
  | _ + 1, [], _, _, done => (done, none)
  | fuel + 1, '%' :: '%' :: rest, values, count, done =>
    writeWithin spelled fuel rest values count ('%' :: done)
  | fuel + 1, '%' :: rest, values, count, done =>
    let (c, after) := conversion rest
    let measured (m : Option Format.Measure) (values : List Value) :
        Option Int × List Value :=
      match m with
      | none => (none, values)
      | some (.given n) => (some n, values)
      | some .argument => (values.head?.map fun v => Number.toWhole v.toNumber, values.tail)
    if values.isEmpty then (done, some .missing)
    else
      let (width, values) := measured c.width values
      let (precision, values) := measured c.precision values
      match values with
      | [] => (done, some .missing)
      | v :: values =>
        let width := width.getD 0
        let l : Format.Layout := ⟨if width < 0 then '-' :: c.flags else c.flags, width.natAbs,
          precision.bind fun n => if n < 0 then none else some n.toNat⟩
        match converted? spelled c l v with
        | some written => writeWithin spelled fuel after values (count + 1) (written.reverse ++ done)
        | none => (done, some (.improper (count + 1)))
  | fuel + 1, c :: rest, values, count, done =>
    writeWithin spelled fuel rest values count (c :: done)

/-- Write values by a format: what has been written, and what was wrong. -/
def write (spelled : Value → String) (format : String) (values : List Value) :
    String × Option FormatFault :=
  let chars := format.toList
  let (done, fault) := writeWithin spelled (chars.length + 1) chars values 0 []
  (String.ofList done.reverse, fault)

end Layout

/-- A number as a text: a whole one by its digits, any other by a format. -/
def Number.toText (format : String) (x : Float) : String :=
  match Number.whole? x with
  | some n => toString n
  | none => (Layout.write (fun _ => "") format [.number x]).1

/-- A value as a text, with a format for numbers. -/
def Value.toText (format : String) : Value → String
  | .unset => ""
  | .number x => Number.toText format x
  | .text t | .outer t => t

/-- Compare values: as numbers if both are numbers or look like ones, otherwise as texts. -/
def Value.holds (comparison : Comparison) (format : String) (a b : Value) : Bool :=
  let order : Ordering :=
    match a, a.number?, b, b.number? with
    | .unset, _, .outer t, none | .outer t, none, .unset, _ =>
      if t.isEmpty then .eq else if a matches .unset then .lt else .gt
    | _, some x, _, some y => if x < y then .lt else if x > y then .gt else .eq
    | _, _, _, _ => compare (a.toText format) (b.toText format)
  match comparison with
  | .equal => order = .eq
  | .unequal => order ≠ .eq
  | .less => order = .lt
  | .atMost => order ≠ .gt
  | .greater => order = .gt
  | .atLeast => order ≠ .lt

/-! ## Taking texts apart -/

/-- What separates the parts of a text. -/
inductive Separator where
  /-- Blanks, of which those at the ends do not count. -/
  | blanks
  | nothing
  | char (c : Char)
  | regex (r : Regex)

namespace Separator

/-- The words of a text. -/
def words : List Char → List Char → List String
  | [], [] => []
  | [], word => [String.ofList word.reverse]
  | c :: rest, word =>
    if Number.isBlank c then
      if word.isEmpty then words rest [] else String.ofList word.reverse :: words rest []
    else words rest (c :: word)

/-- The parts of a text between matches that are not empty. Each match goes further, so that the
length of the text bounds them. -/
def between (t : Regex.Subject) (r : Regex) : Nat → Nat → List String
  | 0, _ => []
  | fuel + 1, position =>
    match Regex.searchIf t r (fun start stop => start < stop) position with
    | some m => String.ofList (t.part position m.start) :: between t r fuel m.stop
    | none => [String.ofList (t.part position t.chars.size)]

/-- The parts of a text. -/
def parts (s : Separator) (text : String) : List String :=
  if text.isEmpty then []
  else
    match s with
    | .blanks => words text.toList []
    | .nothing => text.toList.map String.singleton
    | .char c => (text.toList.splitOn c).map String.ofList
    | .regex r => between (.ofText false false text.toList) r (text.length + 1) 0

end Separator

/-- A part of what a match is replaced by. -/
inductive Piece where
  | char (c : Char)
  | whole
  deriving Repr, DecidableEq

namespace Piece

/-- Read what a match is replaced by: `&` stands for the match. Of backslashes in front of it two
write one, and the one that is left lets it stand for itself. -/
def read : List Char → Nat → List Piece
  | '\\' :: rest, count => read rest (count + 1)
  | '&' :: rest, count =>
    List.replicate (count / 2) (.char '\\') ++
      (if count % 2 = 0 then .whole else .char '&') :: read rest 0
  | c :: rest, count => List.replicate count (.char '\\') ++ .char c :: read rest 0
  | [], count => List.replicate count (.char '\\')

/-- Write what a match is replaced by. -/
def write (pieces : List Piece) (found : List Char) : List Char :=
  pieces.flatMap fun
    | .char c => [c]
    | .whole => found

end Piece

/-- Replace matches from a position on: what comes out and how many there were. A match of nothing
does not count directly behind another match. Each step goes further, which bounds `fuel`. -/
def replaced (t : Regex.Subject) (r : Regex) (pieces : List Piece) (all : Bool) :
    Nat → Nat → Option Nat → List (List Char) → Nat → List (List Char) × Nat
  | 0, _, _, done, count => (done, count)
  | fuel + 1, position, behind, done, count =>
    match Regex.searchIf t r (fun start stop => start ≠ stop || some start ≠ behind) position with
    | none => (t.part position t.chars.size :: done, count)
    | some m =>
      let done := Piece.write pieces (t.part m.start m.stop) :: t.part position m.start :: done
      if !all then (t.part m.stop t.chars.size :: done, count + 1)
      else if m.start = m.stop then
        if m.stop < t.chars.size then
          replaced t r pieces all fuel (m.stop + 1) none
            (t.part m.stop (m.stop + 1) :: done) (count + 1)
        else (done, count + 1)
      else replaced t r pieces all fuel m.stop (some m.stop) done (count + 1)

end CSharpBuild.Machine.Launching.Awk
