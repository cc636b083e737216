/-
Formats as `printf` takes them: text with escapes, and conversions that each take an argument. A
format is used again as long as arguments are left and it takes any (`render`); an argument that is
not there counts as empty or as zero.

The shell and the installed program differ in a few words and escapes; `wide` stands for the latter.
-/
import CSharpBuild.Machine.Arithmetic
import CSharpBuild.Machine.Escape
import CSharpBuild.Text.Double

namespace CSharpBuild.Machine.Format

open Text

/-- A width or a precision, which may be an argument itself. -/
inductive Measure where
  | given (n : Nat)
  | argument
  deriving Repr, DecidableEq

/-- A conversion: its flags, the least width, the precision and its letter. -/
structure Conversion where
  flags : List Char
  width : Option Measure
  precision : Option Measure
  letter : Char
  deriving Repr, DecidableEq

/-- A part of a format. -/
inductive Part where
  | text (text : List Char)
  | convert (conversion : Conversion)
  /-- Something that is no conversion, with what is said of it. -/
  | flaw (complaint : String)
  deriving Repr, DecidableEq

/-- The letters of conversions. -/
def letters : List Char := "abcdefgiosuxAEFGX".toList

/-- Read a width or a precision. -/
def measure (text : List Char) : Option Measure × List Char :=
  match text with
  | '*' :: rest => (some .argument, rest)
  | _ =>
    let digits := text.takeWhile Char.isDigit
    (if digits.isEmpty then none else some (.given (Numeral.ofDigits 10 digits)),
      text.drop digits.length)

/-- Read a conversion behind its percent sign. -/
def conversion (wide : Bool) (text : List Char) : Except String Conversion × List Char :=
  let isFlag (c : Char) : Bool := ['-', '+', ' ', '0', '#'].contains c
  let flags := text.takeWhile isFlag
  let (width, rest) := measure (text.drop flags.length)
  let (precision, rest) : Option Measure × List Char :=
    match rest with
    | '.' :: rest =>
      let (precision, rest) := measure rest
      (some (precision.getD (.given 0)), rest)
    | _ => (none, rest)
  let isSize (c : Char) : Bool := wide && ['h', 'l', 'L', 'j', 't', 'z'].contains c
  let rest := rest.dropWhile isSize
  match rest with
  | letter :: after =>
    if letters.contains letter then (.ok ⟨flags, width, precision, letter⟩, after)
    else
      let written := String.ofList ('%' :: text.take (text.length - after.length))
      (.error (written ++ (if wide then ": invalid conversion specification"
        else ": invalid directive")), after)
  | [] =>
    (.error (if wide then "%" ++ String.ofList text ++ ": invalid conversion specification"
      else "missing format character"), [])

/-- Read a format. Each step takes a character, so `fuel` is the length of the text. -/
def partsWithin (wide : Bool) : Nat → List Char → List Part
  | 0, _ => []
  | _ + 1, [] => []
  | fuel + 1, '%' :: '%' :: rest => .text ['%'] :: partsWithin wide fuel rest
  | fuel + 1, '%' :: rest =>
    match conversion wide rest with
    | (.ok conversion, rest) => .convert conversion :: partsWithin wide fuel rest
    | (.error complaint, _) => [.flaw complaint]
  | fuel + 1, '\\' :: rest =>
    if wide && rest.head? = some 'c' then [.flaw ""]
    else
      let (octets, rest) := Escape.piece wide rest
      .text octets :: partsWithin wide fuel rest
  | fuel + 1, c :: rest => .text [c] :: partsWithin wide fuel rest

/-- Read a format. -/
def parts (wide : Bool) (format : String) : List Part :=
  partsWithin wide format.length format.toList

/-! ## Numbers -/

/-- Read a whole number at the front of a text, behind blanks and a sign; none without a digit. -/
def wholeNumber? (text : List Char) : Option (Int × List Char) := Arithmetic.leading? text

/-- A number for a conversion, and what is said of the argument that it was read from. -/
abbrev Number (α : Type) := α × List String

/-- What is said of an argument that was read up to `rest`. -/
def complaints (wide : Bool) (arg : String) (read : Option (List Char)) (outOfRange : Bool) :
    List String :=
  let shown := if wide then "'" ++ arg ++ "'" else arg
  match read with
  | none =>
    if arg.isEmpty then []
    else [shown ++ (if wide then ": expected a numeric value" else ": expected numeric value")]
  | some (_ :: _) =>
    [shown ++ (if wide then ": value not completely converted" else ": not completely converted")]
  | some [] => if outOfRange then [shown ++ ": Numerical result out of range"] else []

/-- The octet behind a quote, if an argument begins with one. -/
def quotedOctet? (arg : String) : Option Nat :=
  match arg.toList with
  | '\'' :: rest | '"' :: rest => some ((rest.head?.map Char.toNat).getD 0)
  | _ => none

/-- The whole number that an argument writes, within the range that the conversion has. -/
def wholeArgument (wide signed : Bool) (arg : String) : Number Int :=
  match quotedOctet? arg with
  | some octet => (octet, [])
  | none =>
    match wholeNumber? arg.toList with
    | none => (0, complaints wide arg none false)
    | some (n, rest) =>
      let bound : Int := if signed then Arithmetic.clamp n
        else if Arithmetic.range ≤ n.natAbs then Arithmetic.range - 1 else n % Arithmetic.range
      let outOfRange := if signed then bound ≠ n else Arithmetic.range ≤ n.natAbs
      (bound, complaints wide arg (some rest) outOfRange)

/-- The floating-point number that an argument writes. -/
def floatArgument (wide : Bool) (arg : String) : Number Double :=
  match quotedOctet? arg with
  | some octet => (Double.ofDecimal false octet 0, [])
  | none =>
    match Double.read? true arg.toList with
    | none => (Double.ofDecimal false 0 0, complaints wide arg none false)
    | some read => (read.value, complaints wide arg (some read.rest) read.outOfRange)

/-! ## Writing -/

/-- How a field is filled up. -/
structure Layout where
  flags : List Char
  width : Nat
  precision : Option Nat

/-- Whether a flag is given. -/
def Layout.has (l : Layout) (flag : Char) : Bool := l.flags.contains flag

/-- Fill up to the width, on the left unless the flags say otherwise. Zeros come between the sign
and the rest. -/
def pad (l : Layout) (zeros : Bool) (sign text : List Char) : List Char :=
  let missing := l.width - (sign.length + text.length)
  if l.has '-' then sign ++ text ++ List.replicate missing ' '
  else if zeros then sign ++ List.replicate missing '0' ++ text
  else List.replicate missing ' ' ++ sign ++ text

/-- A text, cut to the precision. -/
def writeText (l : Layout) (text : List Char) : List Char :=
  pad l false [] (match l.precision with
    | some count => text.take count
    | none => text)

/-- The sign in front of a number. -/
def sign (l : Layout) (negative : Bool) : List Char :=
  if negative then ['-'] else if l.has '+' then ['+'] else if l.has ' ' then [' '] else []

/-- Write a whole number, of which the letter says how. -/
def writeWhole (l : Layout) (letter : Char) (value : Int) : List Char :=
  let isSigned := letter = 'd' || letter = 'i'
  let base := if letter = 'o' then 8 else if letter = 'x' || letter = 'X' then 16 else 10
  let digits := Nat.toDigits base value.natAbs
  let digits := if letter = 'X' then digits.map Char.toUpper else digits
  let digits := if l.precision = some 0 ∧ value = 0 then [] else digits
  let digits := List.replicate (l.precision.getD 0 - digits.length) '0' ++ digits
  let digits :=
    if letter = 'o' && l.has '#' && digits.head? ≠ some '0' then '0' :: digits else digits
  let front : List Char :=
    if isSigned then sign l (value < 0)
    else if base = 16 && l.has '#' && value ≠ 0 then ['0', letter]
    else []
  pad l (l.has '0' && l.precision.isNone) front digits

/-- Write a floating-point number. -/
def writeFloat (l : Layout) (letter : Char) (value : Double) : List Char :=
  let text := value.format letter l.precision (l.has '#')
  let isFinite := value matches .finite ..
  let front := sign l value.isNegative
  if letter.toLower = 'a' && isFinite then
    pad l (l.has '0') (front ++ text.take 2) (text.drop 2)
  else pad l (l.has '0' && isFinite) front text

/-! ## Rendering -/

/-- What has been written, what was said of arguments, and the arguments that are left. -/
structure Written where
  text : List (List Char)
  complaints : List String
  args : List String
  /-- Whether nothing more is to be written, and the last complaint if that is the reason. -/
  stopped : Option (Option String)

namespace Written

/-- Take the next argument. -/
def next (w : Written) : String × Written := (w.args.headD "", { w with args := w.args.tail })

/-- Write something. -/
def add (w : Written) (text : List Char) : Written := { w with text := text :: w.text }

/-- Take a width or a precision. -/
def measure (wide : Bool) (w : Written) (m : Option Measure) : Option Int × Written :=
  match m with
  | none => (none, w)
  | some (.given n) => (some n, w)
  | some .argument =>
    let (arg, w) := w.next
    let (n, said) := wholeArgument wide true arg
    (some n, { w with complaints := w.complaints ++ said })

/-- Write one argument by a conversion. -/
def convert (wide : Bool) (w : Written) (c : Conversion) : Written :=
  let (width, w) := w.measure wide c.width
  let (precision, w) := w.measure wide c.precision
  let (arg, w) := w.next
  let flags := if (width.getD 0) < 0 then '-' :: c.flags else c.flags
  let precision := precision.bind fun n => if n < 0 then none else some n.toNat
  let l : Layout := ⟨flags, (width.getD 0).natAbs, precision⟩
  let said (w : Written) (complaints : List String) : Written :=
    { w with complaints := w.complaints ++ complaints }
  if c.letter = 's' then w.add (writeText l arg.toList)
  else if c.letter = 'c' then w.add (pad l false [] [arg.toList.headD '\x00'])
  else if c.letter = 'b' then
    let (text, stop) := Escape.expand wide arg.toList
    let w := w.add (writeText l text)
    if stop then { w with stopped := some none } else w
  else if ['d', 'i', 'o', 'u', 'x', 'X'].contains c.letter then
    let (n, complaints) := wholeArgument wide (c.letter = 'd' || c.letter = 'i') arg
    (said w complaints).add (writeWhole l c.letter n)
  else
    let (x, complaints) := floatArgument wide arg
    (said w complaints).add (writeFloat l c.letter x)

/-- Write the parts of a format once. -/
def once (wide : Bool) : List Part → Written → Written
  | [], w => w
  | part :: rest, w =>
    if w.stopped.isSome then w
    else
      match part with
      | .text text => once wide rest (w.add text)
      | .convert c => once wide rest (w.convert wide c)
      | .flaw complaint =>
        { w with stopped := some (if complaint.isEmpty then none else some complaint) }

/-- Write a format until it has taken all arguments. Each round takes one, so `fuel` is their
number. -/
def rounds (wide : Bool) (parts : List Part) : Nat → Written → Written
  | 0, w => w
  | fuel + 1, w =>
    let after := w.once wide parts
    if after.stopped.isSome || after.args.isEmpty || after.args.length = w.args.length then after
    else rounds wide parts fuel after

/-- All that was written. -/
def all (w : Written) : String := String.ofList w.text.reverse.flatten

end Written

/-- Write a format with its arguments. -/
def render (wide : Bool) (format : String) (args : List String) : Written :=
  Written.rounds wide (parts wide format) (args.length + 1) ⟨[], [], args, none⟩

/-- Write a floating-point number by a format that a program has for numbers, such as `%.6g`; the
first conversion of it takes the number. -/
def number (format : String) (value : Double) : String :=
  let texts := (parts false format).map fun
    | .text text => text
    | .flaw _ => []
    | .convert c =>
      let natural : Option Measure → Option Nat
        | some (.given n) => some n
        | _ => none
      writeFloat ⟨c.flags, (natural c.width).getD 0, natural c.precision⟩ c.letter value
  String.ofList texts.flatten

end CSharpBuild.Machine.Format
