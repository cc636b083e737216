/-
The scalar values of TOML 1.0: strings of four kinds, numbers, truth values, dates and times.

A reader takes the longest form that its rule allows and leaves what follows alone; whoever reads
the value refuses what must not follow it.
-/
import CSharpBuild.Text.Numeral
import CSharpBuild.Text.Reader
import CSharpBuild.Tree

namespace CSharpBuild.Toml

open Text Text.Reader

/-- Blanks within a line. -/
def isSpace (c : Char) : Bool := c = ' ' || c = '\t'

/-- Characters that may stand in comments and strings: tabs, printable ASCII and all beyond ASCII.
-/
def isPrintable (c : Char) : Bool := c = '\t' || (0x20 ≤ c.toNat && c.toNat ≠ 0x7F)

/-- Take the blanks within a line. -/
def spaces : Reader Unit := do
  let _ ← takeWhile isSpace

/-- The end of a line. -/
def newline : Reader Unit := literal "\n" <|> literal "\x0d\n"

/-- Take blanks and line ends. -/
def spacesAndLines : Reader Unit := do
  let _ ← collect do
    spaces
    Reader.optional newline

/-! ## Strings -/

/-- The character of an escape, after its backslash. -/
def escape : Reader Char := do
  match ← take with
  | 'b' => pure '\x08'
  | 't' => pure '\t'
  | 'n' => pure '\n'
  | 'f' => pure '\x0c'
  | 'r' => pure '\r'
  | '"' => pure '"'
  | '\\' => pure '\\'
  | 'u' => do expect (Numeral.scalar? (← takeN (Numeral.isDigitIn 16) 4))
  | 'U' => do expect (Numeral.scalar? (← takeN (Numeral.isDigitIn 16) 8))
  | _ => refuse

/-- One character of a basic string, nothing at the closing quote. -/
def basicStep : Reader (Option Char) := do
  let c ← take
  if c = '"' then pure none
  else if c = '\\' then some <$> escape
  else
    require (isPrintable c)
    pure (some c)

/-- One character of a literal string, nothing at the closing quote. -/
def literalStep : Reader (Option Char) := do
  let c ← take
  if c = '\'' then pure none
  else
    require (isPrintable c)
    pure (some c)

/-- A backslash at the end of a line takes the line end and all blanks after it away. -/
def lineContinuation : Reader (List Char) := do
  char '\\'
  spaces
  newline
  spacesAndLines
  pure []

/-- A piece of a multi-line string that is not a quote. A line end counts as a line feed. -/
def multiLinePiece (quote : Char) : Reader (List Char) :=
  (do newline; pure ['\n'])
    <|> (do
      require (quote = '"')
      lineContinuation <|> (do char '\\'; List.singleton <$> escape))
    <|> (do
      let c ← takeIf fun c => isPrintable c && c ≠ quote && !(quote = '"' && c = '\\')
      pure [c])

/-- The text of a multi-line string, after its opening quotes. It ends at the first three quotes;
up to two more that follow them belong to the text. -/
def multiLineRest (quote : Char) : Reader (List Char) := do
  let _ ← Reader.optional newline
  let inner ← collect do
    let quotes ← (·.length) <$> takeWhile (· = quote)
    if quotes = 0 then some <$> multiLinePiece quote
    else if quotes < 3 then pure (some (List.replicate quotes quote))
    else
      require (quotes ≤ 5)
      -- The closing quotes go back, so that the next step finds exactly them.
      fun rest => some (none, List.replicate quotes quote ++ rest)
  let closing ← takeWhile (· = quote)
  pure (inner.flatten ++ List.replicate (closing.length - 3) quote)

/-- A string of one line. -/
def lineString : Reader (List Char) :=
  (do char '"'; collect basicStep) <|> (do char '\''; collect literalStep)

/-- A string of any kind. -/
def string : Reader String := do
  if ← taken? "\"\"\"" then String.ofList <$> multiLineRest '"'
  else if ← taken? "'''" then String.ofList <$> multiLineRest '\''
  else String.ofList <$> lineString

/-! ## Numbers -/

/-- Digits in a base, with single underscores between them. -/
def digits (base : Nat) : Reader (List Char) := do
  let first ← takeIf (Numeral.isDigitIn base)
  let rest ← collect
    (Reader.optional (takeIf (Numeral.isDigitIn base)
      <|> (do char '_'; takeIf (Numeral.isDigitIn base))))
  pure (first :: rest)

/-- A sign: whether it is a minus. -/
def sign : Reader Bool := do
  let c ← Reader.optional (takeIf fun c => c = '+' || c = '-')
  pure (c = some '-')

/-- Decimal digits without a zero in front of others. -/
def decimalDigits : Reader (List Char) :=
  (do
    let next ← peek?
    require (next ≠ some '0')
    digits 10)
    <|> (do char '0'; pure ['0'])

/-- The least number that is too large for an integer of 64 bits with a sign. -/
def integerLimit : Nat := Nat.pow 2 63

/-- A whole number in another base than ten. -/
def prefixedNumber (mark : String) (base : Nat) : Reader Int := do
  literal mark
  let value := Numeral.ofDigits base (← digits base)
  require (value < integerLimit)
  pure value

/-- A whole number in base ten. -/
def decimalNumber : Reader Int := do
  let negative ← sign
  let value := Numeral.ofDigits 10 (← decimalDigits)
  require (value < integerLimit || (negative && value = integerLimit))
  pure (if negative then -(value : Int) else value)

/-- A whole number, within 64 bits. -/
def integer : Reader Tree := do
  let next ← (fun rest => some (rest.take 2, rest) : Reader (List Char))
  match next with
  | ['0', 'x'] => .integer <$> prefixedNumber "0x" 16
  | ['0', 'o'] => .integer <$> prefixedNumber "0o" 8
  | ['0', 'b'] => .integer <$> prefixedNumber "0b" 2
  | _ => .integer <$> decimalNumber

/-- The fraction of a number, without its point. -/
def fractionPart : Reader (List Char) := do
  char '.'
  digits 10

/-- The exponent of a number: whether it is negative, and its digits. -/
def exponentPart : Reader (Bool × List Char) := do
  let _ ← takeIf fun c => c = 'e' || c = 'E'
  let negative ← sign
  let ds ← digits 10
  pure (negative, ds)

/-- A floating-point number with a fraction, an exponent or both. A positive one must be finite. -/
def float : Reader Tree := do
  let negative ← sign
  let whole ← decimalDigits
  let fraction ← Reader.optional fractionPart
  let exponent ← Reader.optional exponentPart
  require (fraction.isSome || exponent.isSome)
  let (expNegative, expDigits) := exponent.getD (false, [])
  require (negative || !Numeral.tooLarge whole (fraction.getD []) expNegative expDigits)
  let point := (fraction.map ('.' :: ·)).getD []
  let power := (exponent.map fun (n, ds) => 'e' :: (if n then '-' :: ds else ds)).getD []
  pure (.real (String.ofList ((if negative then ['-'] else []) ++ whole ++ point ++ power)))

/-- Infinity and the number that is none. -/
def specialFloat : Reader Tree := do
  let negative ← sign
  let name ← (do literal "inf"; pure "inf") <|> (do literal "nan"; pure "nan")
  pure (.real (if negative then "-" ++ name else name))

/-! ## Dates and times -/

/-- A number of `count` decimal digits within bounds. -/
def boundedNumber (count least greatest : Nat) : Reader Nat := do
  let value := Numeral.ofDigits 10 (← takeN Char.isDigit count)
  require (least ≤ value && value ≤ greatest)
  pure value

/-- How many days a month has. -/
def daysIn (year month : Nat) : Nat :=
  if month = 2 then
    if year % 4 = 0 ∧ (year % 100 ≠ 0 ∨ year % 400 = 0) then 29 else 28
  else if month = 4 ∨ month = 6 ∨ month = 9 ∨ month = 11 then 30
  else 31

/-- A day of the calendar. -/
def calendarDay : Reader Unit := do
  let year ← boundedNumber 4 0 9999
  char '-'
  let month ← boundedNumber 2 1 12
  char '-'
  let _ ← boundedNumber 2 1 (daysIn year month)

/-- A time of day, to the second or finer. A minute may have a leap second. -/
def timeOfDay : Reader Unit := do
  let _ ← boundedNumber 2 0 23
  char ':'
  let _ ← boundedNumber 2 0 59
  char ':'
  let _ ← boundedNumber 2 0 60
  let _ ← Reader.optional (do char '.'; takeWhile1 Char.isDigit)

/-- The distance from universal time. -/
def timeOffset : Reader Unit :=
  (do let _ ← takeIf fun c => c = 'Z' || c = 'z')
    <|> (do
      let _ ← takeIf fun c => c = '+' || c = '-'
      let _ ← boundedNumber 2 0 23
      char ':'
      let _ ← boundedNumber 2 0 59)

/-- What `r` takes off the text. -/
def takenBy (r : Reader Unit) : Reader (List Char) := fun text =>
  (r text).map fun (_, rest) => (text.take (text.length - rest.length), rest)

/-- A date, a time, or both, then with or without a distance from universal time. -/
def date : Reader Tree := do
  let text ← takenBy do
    (do
      calendarDay
      let _ ← Reader.optional do
        let _ ← takeIf fun c => c = 'T' || c = 't' || c = ' '
        timeOfDay
        Reader.optional timeOffset)
      <|> timeOfDay
  pure (.date (String.ofList text))

/-! ## All of them -/

/-- A truth value. -/
def truthValue : Reader Tree :=
  (do literal "true"; pure (.bool true)) <|> (do literal "false"; pure (.bool false))

/-- A scalar value. -/
def scalar : Reader Tree :=
  (.text <$> string) <|> truthValue <|> date <|> float <|> specialFloat <|> integer

end CSharpBuild.Toml
