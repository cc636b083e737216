/-
The keys by which lines are sorted: which part of a line a key is, and how two keys compare.
-/
import CSharpBuild.Machine.CharClass
import CSharpBuild.Machine.Tool
import CSharpBuild.Text.Double

namespace CSharpBuild.Machine.Tool

open Text

/-- A position in a line: a field and a character in it, from zero on. -/
structure KeyEdge where
  field : Nat
  char : Nat
  skipsBlanks : Bool
  deriving Repr, DecidableEq

/-- A key: where it starts, where it ends if not with the line, and the letters of its order. -/
structure SortKey where
  start : KeyEdge
  stop : Option KeyEdge
  letters : List Char
  deriving Repr, DecidableEq

/-- Whether a character separates fields where nothing else does. -/
def isFieldGap (c : Char) : Bool := c = ' ' || c = '\t' || c = '\n'

namespace SortKey

/-- Skip the fields in front. A field begins with the blanks in front of it, unless a character
separates fields; `ends` says that the last separator is not skipped. -/
def skipFields (separator : Option Char) (ends : Bool) : Nat → List Char → List Char
  | 0, line => line
  | count + 1, line =>
    match separator with
    | some c =>
      let rest := line.dropWhile (· ≠ c)
      skipFields separator ends count (if ends && count = 0 then rest else rest.drop 1)
    | none =>
      skipFields separator ends count
        ((line.dropWhile isFieldGap).dropWhile fun c => !isFieldGap c)

/-- What a key is in a line. -/
def of (k : SortKey) (separator : Option Char) (line : List Char) : List Char :=
  let blanks (skips : Bool) (text : List Char) : List Char :=
    if skips then text.dropWhile isFieldGap else text
  let behind := (blanks k.start.skipsBlanks (skipFields separator false k.start.field line)).drop
    k.start.char
  match k.stop with
  | none => behind
  | some stop =>
    let rest :=
      if stop.char = 0 then skipFields separator true (stop.field + 1) line
      else (blanks stop.skipsBlanks (skipFields separator false stop.field line)).drop stop.char
    behind.take (behind.length - rest.length)

/-! ## Orders -/

/-- The sign, the whole part and the fraction of the number at the front of a text, without zeros
that say nothing. -/
def decimal (text : List Char) : Bool × List Char × List Char :=
  let text := text.dropWhile isFieldGap
  let (negative, text) : Bool × List Char :=
    match text with
    | '-' :: rest => (true, rest)
    | _ => (false, text)
  let whole := text.takeWhile Char.isDigit
  let fraction := match text.drop whole.length with
    | '.' :: rest => rest.takeWhile Char.isDigit
    | _ => []
  (negative, whole.dropWhile (· = '0'), (fraction.reverse.dropWhile (· = '0')).reverse)

/-- Compare numbers by their digits. -/
def compareDecimals (a b : Bool × List Char × List Char) : Ordering :=
  let size (x y : List Char × List Char) : Ordering :=
    ((compare x.1.length y.1.length).then
      (compare (String.ofList x.1) (String.ofList y.1))).then
      (compare (String.ofList x.2) (String.ofList y.2))
  let isZero (x : Bool × List Char × List Char) : Bool := x.2.1.isEmpty && x.2.2.isEmpty
  match a.1 && !isZero a, b.1 && !isZero b with
  | false, false => size a.2 b.2
  | true, true => size b.2 a.2
  | true, false => .lt
  | false, true => .gt

/-- Compare numbers with units behind them: by sign, by unit and then by number. -/
def compareUnits (a b : List Char) : Ordering :=
  let order (text : List Char) : Int :=
    let (negative, whole, fraction) := decimal text
    let rest := (text.dropWhile isFieldGap).dropWhile fun c => c = '-' || c.isDigit || c = '.'
    let power : Nat := match rest with
      | c :: _ =>
        (("KMGTPEZY".toList.findIdx? (· = (if c = 'k' then 'K' else c))).map (· + 1)).getD 0
      | [] => 0
    if whole.isEmpty && fraction.isEmpty then 0
    else if negative then -(power : Int) - 1
    else power + 1
  (compare (order a) (order b)).then (compareDecimals (decimal a) (decimal b))

/-- The number of the month that a text begins with; zero if there is none. -/
def month (text : List Char) : Nat :=
  let name := ((text.dropWhile isFieldGap).take 3).map Char.toUpper
  let names := ["JAN", "FEB", "MAR", "APR", "MAY", "JUN", "JUL", "AUG", "SEP", "OCT", "NOV", "DEC"]
  ((names.findIdx? (· = String.ofList name)).map (· + 1)).getD 0

/-- Compare texts that begin with floating-point numbers. Those that do not come first. -/
def compareDoubles (a b : List Char) : Ordering :=
  let rank (x : Option Double) : Nat :=
    match x with
    | none => 0
    | some (.nan _) => 1
    | some _ => 2
  let read (text : List Char) : Option Double := (Double.read? true text).map (·.value)
  let (x, y) := (read a, read b)
  (compare (rank x) (rank y)).then
    (match x, y with
      | some x, some y =>
        let (x, y) := (x.toFloat, y.toFloat)
        if x < y then .lt else if y < x then .gt else .eq
      | _, _ => .eq)

/-- Where a character stands in the order of versions. -/
def versionRank (c : Char) : Int :=
  if c.isDigit then 0 else if c.isAlpha then c.toNat else if c = '~' then -1 else c.toNat + 256

/-- Compare texts as versions: their digits as numbers, the rest by rank. Each step takes a part of
both, so `fuel` is their size. -/
def compareVersions : Nat → List Char → List Char → Ordering
  | 0, _, _ => .eq
  | _ + 1, [], [] => .eq
  | fuel + 1, a, b =>
    let word (text : List Char) : List Char := text.takeWhile fun c => !c.isDigit
    let (p, q) := (word a, word b)
    let size := max p.length q.length
    let ranks (word : List Char) : List Int :=
      word.map versionRank ++ List.replicate (size - word.length) 0
    let order := ((ranks p).zip (ranks q)).foldl (fun order (x, y) => order.then (compare x y))
      Ordering.eq
    let (a, b) := (a.drop p.length, b.drop q.length)
    let digits (text : List Char) : List Char := text.takeWhile Char.isDigit
    (order.then (compare (Numeral.ofDigits 10 (digits a)) (Numeral.ofDigits 10 (digits b)))).then
      (compareVersions fuel (a.drop (digits a).length) (b.drop (digits b).length))

/-- Compare two keys in the order of some letters. -/
def compareBy (letters : List Char) (a b : List Char) : Ordering :=
  let has (c : Char) : Bool := letters.contains c
  let order : Ordering :=
    if has 'n' then compareDecimals (decimal a) (decimal b)
    else if has 'g' then compareDoubles a b
    else if has 'h' then compareUnits a b
    else if has 'M' then compare (month a) (month b)
    else
      let seen (text : List Char) : List Char :=
        let text := if has 'd' then text.filter fun c => isFieldGap c || c.isAlphanum else text
        let text := if has 'i' then text.filter isPrintable else text
        if has 'f' then text.map Char.toUpper else text
      if has 'V' then compareVersions (a.length + b.length + 1) (seen a) (seen b)
      else compare (String.ofList (seen a)) (String.ofList (seen b))
  if has 'r' then order.swap else order

/-! ## Reading -/

/-- Read one end of a key: its field and character, the letters behind them, and what is left. -/
def readEdge (whole : String) (isStart : Bool) (text : List Char) :
    Except String (Nat × Nat × List Char × List Char) :=
  let wrong (words : String) (spec : String) : String :=
    words ++ ": invalid field specification " ++ escaped spec
  let number (words : String) (text : List Char) : Except String (Nat × List Char) :=
    let digits := text.takeWhile Char.isDigit
    if digits.isEmpty then
      .error (words ++ ": invalid count at start of " ++ escaped (String.ofList text))
    else .ok (Numeral.ofDigits 10 digits, text.drop digits.length)
  do
    let (field, rest) ←
      number (if isStart then "invalid number at field start" else "invalid number after ','") text
    if field = 0 then .error (wrong "field number is zero" whole)
    else
      let (char, rest) : Nat × List Char ← match rest with
        | '.' :: rest => do
          let (n, after) ← number "invalid number after '.'" rest
          if isStart && n = 0 then .error (wrong "character offset is zero" whole) else pure (n, after)
        | _ => pure (if isStart then 1 else 0, rest)
      let letters := rest.takeWhile fun c => "bdfgiMhnRrV".toList.contains c
      .ok (field - 1, if isStart then char - 1 else char, letters, rest.drop letters.length)

/-- Read a key. -/
def read (text : String) : Except String SortKey := do
  let stray : Except String SortKey :=
    .error ("stray character in field spec: invalid field specification " ++ escaped text)
  let (field, char, letters, rest) ← readEdge text true text.toList
  let start : KeyEdge := ⟨field, char, letters.contains 'b'⟩
  match rest with
  | [] => .ok ⟨start, none, letters⟩
  | ',' :: rest =>
    let (field, char, more, rest) ← readEdge text false rest
    if rest.isEmpty then .ok ⟨start, some ⟨field, char, more.contains 'b'⟩, letters ++ more⟩
    else stray
  | _ => stray

end SortKey

end CSharpBuild.Machine.Tool
