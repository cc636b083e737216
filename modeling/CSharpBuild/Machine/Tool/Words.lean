/-
Tools that write what they are told, or something about it: words, names, counts and conditions.
-/
import CSharpBuild.Machine.Condition
import CSharpBuild.Machine.Format
import CSharpBuild.Machine.Launch
import CSharpBuild.Machine.Tool
import CSharpBuild.Text

namespace CSharpBuild.Machine.Tool

open Text

/-! ## Writing -/

/-- Which letters the options in front of some arguments of `echo` have, and what comes after. -/
def echoOptions : List String → List Char × List String
  | [] => ([], [])
  | arg :: rest =>
    match arg.toList with
    | '-' :: c :: more =>
      if (c :: more).all fun c => ['n', 'e', 'E'].contains c then
        let (letters, rest) := echoOptions rest
        (c :: more ++ letters, rest)
      else ([], arg :: rest)
    | _ => ([], arg :: rest)

/-- Write the arguments. -/
def echo : Tool := fun c =>
  let (letters, args) := echoOptions c.args
  let text := " ".intercalate args
  let escapes := (letters.filter (· ≠ 'n')).getLast? = some 'e'
  let (text, stop) : String × Bool :=
    if escapes then
      let (chars, stop) := Escape.expand true text.toList
      (String.ofList chars, stop)
    else (text, false)
  (Effect.nothing c).out (if letters.contains 'n' || stop then text else text ++ "\n")

/-- Write a format with arguments. -/
def printf : Tool := fun c =>
  let args := if c.args.head? = some "--" then c.args.tail else c.args
  match args with
  | [] => misused 1 "missing operand" c
  | format :: args =>
    let w := Format.render true format args
    let said := w.complaints ++ (w.stopped.getD none).toList
    let excess :=
      match w.stopped, w.args with
      | none, arg :: _ => ["warning: ignoring excess arguments, starting with " ++ quoted arg]
      | _, _ => []
    let e := (said ++ excess).foldl (fun e text => e.complain c.name e.status text)
      (Effect.nothing c)
    { e.out w.all with status := if said.isEmpty then 0 else 1 }

/-- Write a line again and again. Whoever reads it stops at some time. -/
def yes : Tool := withOptions (lettersOnly "" false) 1 fun a c =>
  let line := (if a.operands.isEmpty then "y" else " ".intercalate a.operands) ++ "\n"
  let times := Disk.endlessLength / line.length + 1
  let block := String.join (List.replicate times line)
  ((Effect.nothing c).out block).out block

/-! ## Conditions -/

/-- What is said of arguments that are no condition. -/
def conditionComplaint (text : String) : String :=
  let number := "Illegal number: "
  if startsWith text number then "invalid integer " ++ quoted (text.drop number.length).toString
  else text

/-- Answer a condition with the status. -/
def test (args : List String) : Tool := fun c =>
  match Condition.holds c.disk c.cwd args with
  | .ok answer => ends (if answer then 0 else 1) c
  | .error text => refuses 2 (conditionComplaint text) c

/-- A condition in brackets. -/
def bracket : Tool := fun c =>
  if c.args.getLast? = some "]" then test c.args.dropLast c else refuses 2 "missing ']'" c

/-! ## Names -/

/-- A text without some character at its end; nothing but the character is left alone. -/
def trimEnd (c : Char) (text : List Char) : List Char :=
  let trimmed := (text.reverse.dropWhile (· = c)).reverse
  if trimmed.isEmpty then text.take 1 else trimmed

/-- The last name of a path. -/
def baseName (path : String) : String :=
  let path := trimEnd '/' path.toList
  if path = ['/'] then "/"
  else String.ofList (path.reverse.takeWhile (· ≠ '/')).reverse

/-- The directory that a path leads through in the end. -/
def directoryName (path : String) : String :=
  let path := trimEnd '/' path.toList
  if path = ['/'] then "/"
  else
    let front := path.reverse.dropWhile (· ≠ '/')
    if front.isEmpty then "." else String.ofList (trimEnd '/' front.reverse)

/-- Drop an ending, unless that leaves nothing. -/
def dropEnding (ending name : String) : String :=
  if !ending.isEmpty && ending ≠ name && ending.toList.isSuffixOf name.toList then
    (name.dropEnd ending.length).toString
  else name

/-- What ends each item that a tool writes. -/
def itemEnd (a : Arguments) (letter : Char) : String := if a.has letter then "\x00" else "\n"

/-- Write the last names of paths. -/
def basename : Tool :=
  withOptions ⟨"as:z", [("multiple", 'a'), ("suffix", 's'), ("zero", 'z')], [], false⟩ 1 fun a c =>
    let stop := itemEnd a 'z'
    match a.operands with
    | [] => misused 1 "missing operand" c
    | names =>
      if a.has 'a' || a.has 's' then
        let ending := (a.value? 's').getD ""
        writes (fun _ => String.join (names.map fun name => dropEnding ending (baseName name) ++ stop))
          c
      else
        match names with
        | [name] => writes (fun _ => baseName name ++ stop) c
        | [name, ending] => writes (fun _ => dropEnding ending (baseName name) ++ stop) c
        | _ => misused 1 ("extra operand " ++ quoted (names[2]?.getD "")) c

/-- Write the directories of paths. -/
def dirname : Tool := withOperands ⟨"z", [("zero", 'z')], [], true⟩ 1 none fun a =>
  writes fun _ => String.join (a.operands.map fun name => directoryName name ++ itemEnd a 'z')

/-- Write variables of the environment, or all of it. -/
def printenv : Tool := withOptions ⟨"0", [("null", '0')], [], false⟩ 2 fun a c =>
  let stop := if a.has '0' then "\x00" else "\n"
  match a.operands with
  | [] => writes (fun c => String.join (c.environment.map fun (n, v) => n ++ "=" ++ v ++ stop)) c
  | names =>
    let values := names.filterMap fun name => c.environment.lookup name
    { (Effect.nothing c).out (String.join (values.map (· ++ stop))) with
      status := if values.length = names.length then 0 else 1 }

/-- Write where the call takes place. -/
def pwd : Tool := withOptions ⟨"LP", [("logical", 'L'), ("physical", 'P')], [], true⟩ 1 fun a c =>
  let e := Effect.nothing c
  let e := if a.operands.isEmpty then e else e.complain c.name 0 "ignoring non-option arguments"
  let known := (c.environment.lookup "PWD").filter fun path =>
    Path.isAbsolute ⟨path⟩ && (Disk.names path).all (fun name => name ≠ "." && name ≠ "..") &&
      (c.disk.locate ⟨true, false⟩ c.cwd path).toOption = some c.cwd
  e.line (if a.last? ['L', 'P'] = some 'L' then known.getD c.cwd.path.text else c.cwd.path.text)

/-- What the machine says of itself, by option. -/
def machineWords : List (Char × String) :=
  [('s', "Linux"), ('n', "localhost"), ('r', "6.1.0"), ('v', "#1 SMP"), ('m', "x86_64"),
    ('o', "Linux")]

/-- Write what the machine is. -/
def uname : Tool :=
  withOperands ⟨"asnrvmpio", [("all", 'a'), ("kernel-name", 's'), ("nodename", 'n'),
      ("kernel-release", 'r'), ("kernel-version", 'v'), ("machine", 'm'), ("processor", 'p'),
      ("hardware-platform", 'i'), ("operating-system", 'o')], [], true⟩ 0 (some 0) fun a =>
    let shown := machineWords.filter fun (letter, _) =>
      a.has 'a' || a.has letter || (letter = 's' && a.given.isEmpty)
    let unknown := if a.has 'a' then [] else
      ['p', 'i'].filterMap fun letter => if a.has letter then some "unknown" else none
    let (front, back) := shown.span fun (letter, _) => letter ≠ 'o'
    writes fun _ => " ".intercalate (front.map Prod.snd ++ unknown ++ back.map Prod.snd) ++ "\n"

/-- Write the name of the user. -/
def whoami : Tool := withOperands (lettersOnly "" true) 0 (some 0) fun _ => writes fun _ => "root\n"

/-- Write who the user is. -/
def identity : Tool :=
  withOptions ⟨"augGnrz", [("user", 'u'), ("group", 'g'), ("groups", 'G'), ("name", 'n'),
      ("real", 'r'), ("zero", 'z')], [], true⟩ 1 fun a c =>
    match a.operands.find? fun name => name ≠ "root" && name ≠ "0" with
    | some name => refuses 1 (quoted name ++ ": no such user") c
    | none =>
      if a.has 'u' || a.has 'g' || a.has 'G' then
        writes (fun _ => (if a.has 'n' then "root" else "0") ++ itemEnd a 'z') c
      else writes (fun _ => "uid=0(root) gid=0(root) groups=0(root)\n") c

/-- Write where programs are. -/
def which : Tool := withOptions (lettersOnly "as" false) 2 fun a c =>
  let path := (c.environment.lookup "PATH").getD ""
  let found (name : String) : List String :=
    let places := if name.contains '/' then [name] else Launch.places path name
    places.filter fun place => (Launch.obstacle? c.disk c.cwd place).isNone
  let shown (name : String) : List String := if a.has 'a' then found name else (found name).take 1
  let e := Effect.nothing c
  let e := if a.has 's' then e else e.out (unlines (a.operands.flatMap shown))
  { e with
    status := if a.operands.all (fun name => !(found name).isEmpty) && !a.operands.isEmpty then 0
      else 1 }

/-! ## Time -/

/-- How many thousandths of a second an interval takes. -/
def interval? (text : String) : Option Nat :=
  match Double.read? true text.toList with
  | none => none
  | some read =>
    let unit : Option Nat :=
      match read.rest with
      | [] | ['s'] => some 1000
      | ['m'] => some 60000
      | ['h'] => some 3600000
      | ['d'] => some 86400000
      | _ => none
    match unit, read.value with
    | some unit, .finite false mantissa exponent =>
      let (up, down) := Double.fraction mantissa exponent
      some (up * unit / down)
    | some _, .infinite false => some 4294967296000
    | _, _ => none

/-- Let time pass. -/
def sleep : Tool := withOptions (lettersOnly "" true) 1 fun a c =>
  match a.operands with
  | [] => misused 1 "missing operand" c
  | operands =>
    let wrong := operands.filter fun text => (interval? text).isNone
    if wrong.isEmpty then
      { Effect.nothing c with lasted := (operands.filterMap interval?).foldl (· + ·) 0 }
    else
      let e := wrong.foldl (fun e text => e.complain c.name 1
        ("invalid time interval " ++ quoted text)) (Effect.nothing c)
      { e with written := e.written ++ [(2, hint c ++ "\n")] }

/-! ## Numbers -/

/-- A decimal number: its digits as a whole number, and how many of them stand behind the point. -/
structure Decimal where
  value : Int
  places : Nat
  /-- How wide it is written. -/
  width : Nat
  deriving Repr, DecidableEq

/-- Read a decimal number. -/
def Decimal.read? (text : String) : Option Decimal :=
  let (negative, unsigned) : Bool × List Char :=
    match text.toList with
    | '-' :: rest => (true, rest)
    | '+' :: rest => (false, rest)
    | chars => (false, chars)
  let whole := unsigned.takeWhile Char.isDigit
  let rest := unsigned.drop whole.length
  let (fraction, rest) : List Char × List Char :=
    match rest with
    | '.' :: more =>
      let fraction := more.takeWhile Char.isDigit
      (fraction, more.drop fraction.length)
    | _ => ([], rest)
  let exponent? : Option Int :=
    match rest with
    | [] => some 0
    | e :: rest => if e = 'e' || e = 'E' then (String.ofList rest).toInt? else none
  match exponent? with
  | none => none
  | some exponent =>
    let digits := whole ++ fraction
    if digits.isEmpty || 400 < exponent.natAbs then none
    else
      let places : Int := fraction.length - exponent
      let n : Int := Numeral.ofDigits 10 digits
      let n := if negative then -n else n
      let n := if places < 0 then n * Nat.pow 10 (-places).toNat else n
      let front := (if negative then 1 else 0) + max 1 whole.length + exponent.toNat
      some ⟨n, places.toNat, front + (if 0 < places then 1 + places.toNat else 0)⟩

/-- The digits of a decimal number, as a whole number with so many places. -/
def Decimal.scaled (d : Decimal) (places : Nat) : Int := d.value * Nat.pow 10 (places - d.places)

/-- Write a scaled number. -/
def writeDecimal (places : Nat) (n : Int) : String :=
  let digits := Double.withPoint (Nat.toDigits 10 n.natAbs) places false
  String.ofList (if n < 0 then '-' :: digits else digits)

/-- Fill up with zeros behind the sign. -/
def zeroFilled (width : Nat) (text : String) : String :=
  let (sign, digits) : String × String :=
    if startsWith text "-" then ("-", (text.drop 1).toString) else ("", text)
  sign ++ "".pushn '0' (width - text.length) ++ digits

/-- What is wrong with a format for numbers. -/
def numberFormatFault? (format : String) : Option String :=
  let parts := Format.parts true (format.replace "\\" "\\\\")
  let conversions := parts.filterMap fun
    | .convert c => some c.letter
    | _ => none
  match conversions with
  | [] => some "has no % directive"
  | [letter] =>
    if "aefgAEFG".toList.contains letter then none
    else some ("has unknown %" ++ String.singleton letter ++ " directive")
  | _ => some "has too many % directives"

/-- Write numbers in steps. -/
def seq : Tool := fun c =>
  let isNumber (arg : String) : Bool :=
    match arg.toList with
    | '-' :: c :: _ => c = '.' || c.isDigit
    | _ => false
  let (front, back) := c.args.span fun arg => !isNumber arg
  let options : Options :=
    ⟨"f:s:w", [("format", 'f'), ("separator", 's'), ("equal-width", 'w')], [], false⟩
  let begins := match options.read front with
    | .ok a => a.operands.isEmpty && !front.contains "--"
    | .error _ => false
  let args := if begins then front ++ "--" :: back else c.args
  withOptions options 1 (fun a c =>
    match a.operands with
    | [] => misused 1 "missing operand" c
    | _ :: _ :: _ :: extra :: _ => misused 1 ("extra operand " ++ quoted extra) c
    | operands =>
      match operands.find? fun text => (Decimal.read? text).isNone with
      | some text => misused 1 ("invalid floating point argument: " ++ quoted text) c
      | none =>
        let one : Decimal := ⟨1, 0, 1⟩
        let (first, step, last) :=
          match operands.filterMap Decimal.read? with
          | [last] => (one, one, last)
          | [first, last] => (first, one, last)
          | [first, step, last] => (first, step, last)
          | _ => (one, one, one)
        let fault := (a.value? 'f').bind fun format =>
          (numberFormatFault? format).map fun words => "format " ++ quoted format ++ " " ++ words
        match fault with
        | some text => refuses 1 text c
        | none =>
          if step.value = 0 then
            misused 1 ("invalid Zero increment value: " ++ quoted (operands[1]?.getD "")) c
          else if a.has 'f' && a.has 'w' then
            misused 1 "format string may not be specified when printing equal width strings" c
          else writes (fun _ => text a first step last) c) { c with args := args }
where
  /-- All numbers from the first to the last. -/
  text (a : Arguments) (first step last : Decimal) : String :=
    let places := max first.places step.places
    let scale := max places last.places
    let start := first.scaled scale
    let stride := step.scaled scale
    let way := last.scaled scale - start
    let count := if (0 < stride) = (0 ≤ way) || way = 0 then way.natAbs / stride.natAbs + 1 else 0
    let shown (n : Int) : String := writeDecimal places (n / Nat.pow 10 (scale - places))
    let final := shown (start + stride * (count - 1 : Int))
    let width := if a.has 'w' then
        max (max (shown start).length final.length)
          (writeDecimal places (last.scaled scale / Nat.pow 10 (scale - places))).length
      else 0
    let write (n : Int) : String :=
      match a.value? 'f' with
      | some format =>
        Format.number format (Double.ofDecimal (n < 0) n.natAbs (-(scale : Int)))
      | none => zeroFilled width (shown n)
    let numbers := (List.range count).map fun (i : Nat) => write (start + stride * i)
    if numbers.isEmpty then "" else ((a.value? 's').getD "\n").intercalate numbers ++ "\n"

/-- The factors of a number in ascending order, from one on; `fuel` bounds the attempts. -/
def factorsWithin : Nat → Nat → Nat → List Nat
  | 0, _, n => [n]
  | fuel + 1, least, n =>
    if n < 2 then []
    else if n < least * least then [n]
    else if n % least = 0 then least :: factorsWithin fuel least (n / least)
    else factorsWithin fuel (if least = 2 then 3 else least + 2) n

/-- Write the factors of numbers. -/
def factor : Tool := withOptions (lettersOnly "h" true) 1 fun a c =>
  let isBlank (c : Char) : Bool := c = ' ' || c = '\n' || c = '\t'
  let words := if a.operands.isEmpty then
      ((c.input.splitOnP isBlank).filter fun word => !word.isEmpty).map String.ofList
    else a.operands
  let e := words.foldl (fun e word =>
    if word.toList.all Char.isDigit && !word.isEmpty then
      let n := Numeral.ofDigits 10 word.toList
      e.line (toString n ++ ":" ++ String.join ((factorsWithin 1000000 2 n).map fun p =>
        " " ++ toString p))
    else e.complain c.name 1 (quoted word ++ " is not a valid positive integer"))
    (Effect.nothing c)
  if a.operands.isEmpty then e.takeAll c else e

end CSharpBuild.Machine.Tool
