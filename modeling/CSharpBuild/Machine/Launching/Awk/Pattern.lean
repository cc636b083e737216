/-
Reading the regular expressions of programs that take records apart. A backslash takes the meaning
from a sign, also in brackets, or writes a character that is hard to write otherwise.
-/
import CSharpBuild.Machine.Launching.Awk.Program
import CSharpBuild.Text.Numeral

namespace CSharpBuild.Machine.Launching.Awk.Pattern

open Text

/-- What may be wrong with an expression. -/
inductive Fault where
  | operand
  | closing
  | bracket
  | repeatedStart
  | interval
  | tooLarge
  deriving Repr, DecidableEq

/-- A fault in words. -/
def Fault.words : Fault → String
  | .operand => "missing operand"
  | .closing => "missing ')'"
  | .bracket => "bad class -- [], [^] or ["
  | .repeatedStart => "syntax error ^* or ^+"
  | .interval => "bad interval expression"
  | .tooLarge => "resource exhaustion -- regular expression too large"

/-- What a text after a backslash stands for, and what is left: a letter, or the number of a
character. -/
def escape? (text : List Char) : Option (Char × List Char) :=
  let number (base count : Nat) (text : List Char) : Option (Char × List Char) :=
    let digits := (text.take count).takeWhile (Numeral.isDigitIn base)
    if digits.isEmpty then none
    else some (Char.ofNat (Numeral.ofDigits base digits % 256), text.drop digits.length)
  match text with
  | 'a' :: rest => some ('\x07', rest)
  | 'b' :: rest => some ('\x08', rest)
  | 'f' :: rest => some ('\x0c', rest)
  | 'n' :: rest => some ('\n', rest)
  | 'r' :: rest => some ('\r', rest)
  | 't' :: rest => some ('\t', rest)
  | 'v' :: rest => some ('\x0b', rest)
  | '"' :: rest => some ('"', rest)
  | '\\' :: rest => some ('\\', rest)
  | 'x' :: rest => number 16 2 rest
  | rest => number 8 3 rest

/-- A text with its escapes resolved; a backslash in front of anything else stays. Each step takes a
character, so `fuel` is the length of the text. -/
def unescapedWithin : Nat → List Char → List Char
  | 0, text => text
  | _ + 1, [] => []
  | fuel + 1, '\\' :: rest =>
    match escape? rest with
    | some (c, rest) => c :: unescapedWithin fuel rest
    | none =>
      match rest with
      | '\n' :: rest => unescapedWithin fuel rest
      | rest => '\\' :: unescapedWithin fuel rest
  | fuel + 1, c :: rest => c :: unescapedWithin fuel rest

/-- A text with its escapes resolved. -/
def unescaped (text : List Char) : List Char := unescapedWithin (text.length + 1) text

/-- A character of brackets, perhaps with a backslash. -/
def member? (text : List Char) : Option (Char × List Char) :=
  match text with
  | '\\' :: rest => (escape? rest).orElse fun _ => rest.head?.map fun c => (c, rest.tail)
  | c :: rest => some (c, rest)
  | [] => none

/-- Read what brackets list, up to the closing one, which stands for itself in front. Each step takes
a character, so `fuel` is the length of the text. -/
def members : Nat → Bool → List Char → Except Fault (List Choice × List Char)
  | 0, _, _ => .error .bracket
  | fuel + 1, first, text =>
    let add (choices : List Choice) (rest : List Char) : Except Fault (List Choice × List Char) := do
      let (more, rest) ← members fuel false rest
      .ok (choices ++ more, rest)
    let single (text : List Char) : Except Fault (List Choice × List Char) :=
      match member? text with
      | none => .error .bracket
      | some (low, rest) =>
        match rest with
        | '-' :: ']' :: _ => add [.range low low] rest
        | '-' :: after =>
          match member? after with
          | none => .error .bracket
          | some (high, behind) =>
            if high < low then add [.range low low, .range '-' '-'] after
            else add [.range low high] behind
        | rest => add [.range low low] rest
    match text with
    | ']' :: rest => if first then single text else .ok ([], rest)
    | '[' :: ':' :: rest =>
      let name := rest.takeWhile Char.isAlpha
      match rest.drop name.length with
      | ':' :: ']' :: behind =>
        let name := String.ofList name
        if (CharClass.ofName? name).isSome then add [.named name] behind else .error .bracket
      | _ => single text
    | text => single text

/-- Read what stands behind an opening bracket. -/
def bracket (text : List Char) : Except Fault (Regex × List Char) := do
  let (negated, listed) : Bool × List Char :=
    match text with
    | '^' :: rest => (true, rest)
    | _ => (false, text)
  let (choices, rest) ← members (listed.length + 1) true listed
  .ok (.among negated choices, rest)

/-- The bounds of a repetition behind its opening brace, if that is what it is. -/
def bounds? (text : List Char) : Option (Nat × Option Nat × List Char) :=
  let low := text.takeWhile Char.isDigit
  let number (digits : List Char) : Nat := Numeral.ofDigits 10 digits
  match text.drop low.length with
  | '\x7d' :: rest => if low.isEmpty then none else some (number low, some (number low), rest)
  | ',' :: rest =>
    let high := rest.takeWhile Char.isDigit
    match rest.drop high.length with
    | '\x7d' :: behind =>
      if low.isEmpty && high.isEmpty then none
      else some (number low, if high.isEmpty then none else some (number high), behind)
    | _ => none
  | _ => none

/-- An expression that is being read: what is left, and how many groups are open. -/
structure Reading where
  rest : List Char
  depth : Nat

/-- A step of reading. -/
abbrev Step := StateT Reading (Except Fault)

/-- Read the repetitions behind an expression. Each takes a character, which bounds `fuel`. -/
def repetitions : Nat → Bool → Regex → Step Regex
  | 0, _, r => pure r
  | fuel + 1, isStart, r => do
    let s ← get
    let again (least : Nat) (most : Option Nat) (rest : List Char) : Step Regex := do
      set { s with rest := rest }
      repetitions fuel false (.repeated r least most)
    match s.rest with
    | '*' :: rest => if isStart then throw .repeatedStart else again 0 none rest
    | '+' :: rest => if isStart then throw .repeatedStart else again 1 none rest
    | '?' :: rest => again 0 (some 1) rest
    | '\x7b' :: rest =>
      match bounds? rest with
      | some (least, most, behind) =>
        if most.any (· < least) then throw .interval else again least most behind
      | none => pure r
    | _ => pure r

mutual

/-- Read alternatives. Each step takes a character, which bounds `fuel`. -/
def alternatives : Nat → Step Regex
  | 0 => throw .tooLarge
  | fuel + 1 => do
    let first ← sequence fuel none
    let s ← get
    match s.rest with
    | '|' :: rest =>
      set { s with rest := rest }
      pure (.either first (← alternatives fuel))
    | _ => pure first

/-- Read what stands one behind the other. -/
def sequence : Nat → Option Regex → Step Regex
  | 0, _ => throw .tooLarge
  | fuel + 1, before => do
    let s ← get
    let add (isStart : Bool) (r : Regex) (rest : List Char) : Step Regex := do
      modify fun s => { s with rest := rest }
      let r ← repetitions fuel isStart r
      sequence fuel (some (match before with
        | some before => .both before r
        | none => r))
    let finish : Step Regex :=
      match before with
      | some r => pure r
      | none => throw .operand
    match s.rest with
    | [] | '|' :: _ => finish
    | ')' :: rest => if s.depth = 0 then add false (.char ')') rest else finish
    | '(' :: rest =>
      set (⟨rest, s.depth + 1⟩ : Reading)
      let body ← alternatives fuel
      match (← get).rest with
      | ')' :: rest =>
        modify fun t => { t with depth := s.depth }
        add false body rest
      | _ => throw .closing
    | '*' :: _ | '+' :: _ | '?' :: _ => throw .operand
    | '\x7b' :: rest =>
      if (bounds? rest).isSome then throw .tooLarge else add false (.char '\x7b') rest
    | '[' :: rest =>
      let (r, rest) ← liftM (bracket rest)
      add false r rest
    | '.' :: rest => add false .any rest
    | '^' :: rest => add true (.edge .textStart) rest
    | '$' :: rest => add false (.edge .textEnd) rest
    | '\\' :: rest =>
      match escape? rest, rest with
      | some (c, rest), _ => add false (.char c) rest
      | none, '\n' :: rest =>
        modify fun s => { s with rest := rest }
        sequence fuel before
      | none, c :: rest => add false (.char c) rest
      | none, [] => add false (.char '\\') []
    | c :: rest => add false (.char c) rest

end

/-- Read an expression. An empty one matches everywhere. -/
def read (text : String) : Except Fault Regex :=
  if text.isEmpty then .ok .empty
  else ((alternatives (4 * text.length + 4)).run ⟨text.toList, 0⟩).map Prod.fst

end CSharpBuild.Machine.Launching.Awk.Pattern
