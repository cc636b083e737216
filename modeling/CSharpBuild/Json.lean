/-
Reading JSON text, strictly: no comments, no comma before a closing bracket, nothing after the
value, no control characters in strings, surrogate escapes only in pairs, numbers within the range
of 64-bit floating point, and at most 127 brackets inside one another.

`read?` reads a whole value. `readMembers?` reads an object of which only some members count; the
values of the others only have to look like values: their escapes may be any four digits, their
numbers of any size, and their brackets as deep as they like.
-/
import CSharpBuild.Text.Numeral
import CSharpBuild.Text.Reader
import CSharpBuild.Tree

namespace CSharpBuild.Json

open Text Text.Reader

/-- How deep values may be nested. -/
def depthLimit : Nat := 128

/-- Take the blanks between tokens. -/
def blanks : Reader Unit := do
  let _ ← takeWhile fun c => c = ' ' || c = '\n' || c = '\t' || c = '\r'

/-- Take the four digits of an escape. -/
def hex4 : Reader Nat := do
  let digits ← takeN (Numeral.isDigitIn 16) 4
  pure (Numeral.ofDigits 16 digits)

/-- The character of a numeric escape, whose first unit may need a second. -/
def unicodeEscape : Reader Char := do
  let first ← hex4
  if 0xD800 ≤ first ∧ first < 0xDC00 then
    literal "\\u"
    let second ← hex4
    require (0xDC00 ≤ second && second < 0xE000)
    pure (Char.ofNat (0x10000 + (first - 0xD800) * 0x400 + (second - 0xDC00)))
  else
    require (first < 0xD800 || 0xE000 ≤ first)
    pure (Char.ofNat first)

/-- The character of an escape, after its backslash. -/
def escape : Reader Char := do
  match ← take with
  | '"' => pure '"'
  | '\\' => pure '\\'
  | '/' => pure '/'
  | 'b' => pure '\x08'
  | 'f' => pure '\x0c'
  | 'n' => pure '\n'
  | 'r' => pure '\r'
  | 't' => pure '\t'
  | 'u' => unicodeEscape
  | _ => refuse

/-- One character of a string, nothing at the closing quote. -/
def stringStep : Reader (Option Char) := do
  let c ← take
  if c = '"' then pure none
  else if c = '\\' then some <$> escape
  else
    require (0x20 ≤ c.toNat)
    pure (some c)

/-- A string, after its opening quote. -/
def stringRest : Reader String := String.ofList <$> collect stringStep

/-- The whole part of a number: no zero in front of other digits. -/
def wholePart : Reader (List Char) := do
  let first ← takeIf Char.isDigit
  if first = '0' then pure ['0']
  else
    let rest ← takeWhile Char.isDigit
    pure (first :: rest)

/-- The fraction of a number, without its point. -/
def fractionPart : Reader (List Char) := do
  char '.'
  takeWhile1 Char.isDigit

/-- The exponent of a number: whether it is negative, and its digits. -/
def exponentPart : Reader (Bool × List Char) := do
  let _ ← takeIf fun c => c = 'e' || c = 'E'
  let sign ← Reader.optional (takeIf fun c => c = '+' || c = '-')
  let digits ← takeWhile1 Char.isDigit
  pure (sign = some '-', digits)

/-- A number. -/
def number : Reader Tree := do
  let negative ← taken? "-"
  let whole ← wholePart
  let fraction ← Reader.optional fractionPart
  let exponent ← Reader.optional exponentPart
  let (expNegative, expDigits) := exponent.getD (false, [])
  let parts := ((Numeral.Scaled.ofWhole whole).addFraction (fraction.getD [])).addExponent
    expNegative expDigits
  require !parts.overflows
  match fraction, exponent with
  | none, none =>
    let value : Int := Numeral.ofDigits 10 whole
    pure (.integer (if negative then -value else value))
  | _, _ =>
    let sign := if negative then ['-'] else []
    let point := (fraction.map ('.' :: ·)).getD []
    let power := (exponent.map fun (n, ds) => 'e' :: (if n then '-' :: ds else ds)).getD []
    pure (.real (String.ofList (sign ++ whole ++ point ++ power)))

/-- Items with commas between them up to a closing bracket, after the opening one. -/
def sequenceOf {α : Type} (close : Char) (item : Reader α) : Reader (List α) := do
  blanks
  if ← taken? (String.singleton close) then pure []
  else
    let first ← item
    let rest ← collect do
      blanks
      let c ← take
      if c = close then pure none
      else
        require (c = ',')
        some <$> item
    pure (first :: rest)

/-- One entry of an object. -/
def entry (value : Reader Tree) : Reader (String × Tree) := do
  blanks
  char '"'
  let key ← stringRest
  blanks
  char ':'
  let value ← value
  pure (key, value)

/-- A value with at most the given number of brackets inside one another. -/
def value : Nat → Reader Tree
  | 0 => refuse
  | depth + 1 => do
    blanks
    match ← peek? with
    | some '"' => do
      char '"'
      .text <$> stringRest
    | some '[' => do
      char '['
      require (depth ≠ 0)
      .list <$> sequenceOf ']' (value depth)
    | some '\x7b' => do
      char '\x7b'
      require (depth ≠ 0)
      .table .object <$> sequenceOf '\x7d' (entry (value depth))
    | some 't' => do
      literal "true"
      pure (.bool true)
    | some 'f' => do
      literal "false"
      pure (.bool false)
    | some 'n' => do
      literal "null"
      pure .null
    | _ => number

/-- Read a JSON text. -/
def read? (text : String) : Option Tree :=
  readAll (do let tree ← value depthLimit; blanks; pure tree) text

/-! ## Members that do not count -/

/-- Pass over one character of a string; nothing at the closing quote. -/
def passStringStep : Reader (Option Unit) := do
  let c ← take
  if c = '"' then pure none
  else if c = '\\' then
    let letter ← take
    if letter = 'u' then
      let _ ← hex4
      pure (some ())
    else
      require (['"', '\\', '/', 'b', 'f', 'n', 'r', 't'].contains letter)
      pure (some ())
  else
    require (0x20 ≤ c.toNat)
    pure (some ())

/-- Pass over a string. -/
def passString : Reader Unit := do
  char '"'
  let _ ← collect passStringStep

/-- Pass over a key and its colon. -/
def passKey : Reader Unit := do
  passString
  blanks
  char ':'

/-- Pass over a number. -/
def passNumber : Reader Unit := do
  let _ ← taken? "-"
  let _ ← wholePart
  if (← peek?) = some '.' then
    let _ ← fractionPart
  if (← peek?).any fun c => c = 'e' || c = 'E' then
    let _ ← exponentPart

/-- Pass over a value without brackets. -/
def passScalar : Reader Unit := do
  match ← peek? with
  | some '"' => passString
  | some 't' => literal "true"
  | some 'f' => literal "false"
  | some 'n' => literal "null"
  | _ => passNumber

/-- What an open bracket holds. -/
inductive Bracket where
  | items
  | members
  deriving DecidableEq, Repr

/-- Pass over what is left of a value inside open brackets, innermost first. `due` says that a value
comes next, otherwise one has just ended. Every step but the last takes a character. -/
def passWithin : Nat → List Bracket → Bool → List Char → Option (List Char)
  | 0, _, _, _ => none
  | fuel + 1, brackets, true, text =>
    match skipped text with
    | '[' :: rest =>
      match skipped rest with
      | ']' :: rest => passWithin fuel brackets false rest
      | rest => passWithin fuel (.items :: brackets) true rest
    | '\x7b' :: rest =>
      match skipped rest with
      | '\x7d' :: rest => passWithin fuel brackets false rest
      | rest =>
        match passKey rest with
        | some (_, rest) => passWithin fuel (.members :: brackets) true rest
        | none => none
    | rest =>
      match passScalar rest with
      | some (_, rest) => passWithin fuel brackets false rest
      | none => none
  | _ + 1, [], false, text => some text
  | fuel + 1, bracket :: outer, false, text =>
    match bracket, skipped text with
    | .items, ',' :: rest => passWithin fuel (bracket :: outer) true rest
    | .members, ',' :: rest =>
      match passKey (skipped rest) with
      | some (_, rest) => passWithin fuel (bracket :: outer) true rest
      | none => none
    | .items, ']' :: rest => passWithin fuel outer false rest
    | .members, '\x7d' :: rest => passWithin fuel outer false rest
    | _, _ => none
where
  /-- The text behind the blanks in front of it. -/
  skipped (text : List Char) : List Char := (blanks text).elim text Prod.snd

/-- Pass over a value. -/
def passValue : Reader Unit := fun text =>
  (passWithin (text.length + 2) [] true text).map fun rest => ((), rest)

/-- One member of an object, if it counts. -/
def member? (counts : String → Bool) (value : Reader Tree) : Reader (Option (String × Tree)) := do
  blanks
  char '"'
  let key ← stringRest
  blanks
  char ':'
  if counts key then
    let value ← value
    pure (some (key, value))
  else
    passValue
    pure none

/-- Read a JSON text that is an object, with only the members whose keys count. -/
def readMembers? (counts : String → Bool) (text : String) : Option Tree :=
  readAll (do
    blanks
    char '\x7b'
    let members ← sequenceOf '\x7d' (member? counts (value (depthLimit - 1)))
    blanks
    pure (.table .object (members.filterMap id))) text

end CSharpBuild.Json
