/-
Arithmetic of the shell: expressions over whole numbers of 64 bits and the variables of the shell.
`Arithmetic.evaluate` reads an expression and computes it at once, from the left; what stands in a
branch that is not taken is read but not computed.
-/
import CSharpBuild.Text.Numeral

namespace CSharpBuild.Machine.Arithmetic

open Text

/-- Why an expression has no value. -/
inductive Fault where
  | expected (what : String)
  | divisionByZero
  | illegalNumber (text : String)
  deriving Repr, DecidableEq

/-- A fault in an expression, in words. -/
def Fault.words (expression : String) : Fault → String
  | .expected what => "arithmetic expression: expecting " ++ what ++ ": \"" ++ expression ++ "\""
  | .divisionByZero => "arithmetic expression: division by zero: \"" ++ expression ++ "\""
  | .illegalNumber text => "Illegal number: " ++ text

/-! ## Numbers -/

/-- How many numbers there are. -/
def range : Nat := Nat.pow 2 64

/-- A number as one of 64 bits with a sign. -/
def wrap (n : Int) : Int := Int.bmod n range

/-- The greatest number. -/
def greatest : Int := Int.ofNat (Nat.pow 2 63) - 1

/-- A number within the range: itself, or the end of the range that it lies beyond. -/
def clamp (n : Int) : Int := max (-greatest - 1) (min greatest n)

/-- The bits of a number. -/
def bits (n : Int) : Nat := (n % (range : Int)).toNat

/-- Read digits in the base that their beginning tells: hexadecimal, octal or decimal. There is
always at least one digit. -/
def digits (text : List Char) : Nat × List Char :=
  let inBase (base : Nat) (text : List Char) : Nat × List Char :=
    (Numeral.ofDigits base (text.takeWhile (Numeral.isDigitIn base)),
      text.dropWhile (Numeral.isDigitIn base))
  match text with
  | '0' :: x :: d :: rest =>
    if (x = 'x' || x = 'X') && Numeral.isDigitIn 16 d then inBase 16 (d :: rest) else inBase 8 text
  | '0' :: _ => inBase 8 text
  | _ => inBase 10 text

/-- The number at the front of a text, behind blanks and a sign, and what is left; none if there is
no digit. -/
def leading? (text : List Char) : Option (Int × List Char) :=
  let text := text.dropWhile fun c => c = ' ' || ('\t' ≤ c && c ≤ '\r')
  let (negative, text) : Bool × List Char :=
    match text with
    | '-' :: rest => (true, rest)
    | '+' :: rest => (false, rest)
    | _ => (false, text)
  match text with
  | c :: _ =>
    if c.isDigit then
      let (n, rest) := digits text
      some (if negative then -(n : Int) else n, rest)
    else none
  | [] => none

/-- The number that the value of a variable writes; nothing at all writes zero. -/
def ofValue (text : String) : Except Fault Int :=
  let isBlank (c : Char) : Bool := c = ' ' || ('\t' ≤ c && c ≤ '\r')
  if text.toList.all isBlank then .ok 0
  else
    match leading? text.toList with
    | some (n, rest) =>
      if rest.all isBlank && clamp n = n then .ok n else .error (.illegalNumber text)
    | none => .error (.illegalNumber text)

/-! ## Tokens -/

/-- A token of an expression. -/
inductive Token where
  | number (n : Int)
  | name (text : String)
  | sign (text : String)
  | unknown
  deriving Repr, DecidableEq

/-- The signs, those that begin with another one before it. -/
def signs : List String :=
  ["<<=", ">>=", "<<", ">>", "<=", ">=", "==", "!=", "&&", "||", "*=", "/=", "%=", "+=", "-=", "&=",
    "^=", "|=", "=", "<", ">", "!", "&", "|", "*", "/", "%", "+", "-", "^", "~", "?", ":", "(", ")"]

/-- Read the tokens of an expression. Each takes a character, so `fuel` is the length of the text.
-/
def tokens : Nat → List Char → List Token
  | 0, _ => []
  | _ + 1, [] => []
  | fuel + 1, c :: rest =>
    if c = ' ' ∨ c = '\t' ∨ c = '\n' then tokens fuel rest
    else if c.isDigit then
      let (n, rest) := digits (c :: rest)
      .number (clamp n) :: tokens fuel rest
    else if c.isAlpha ∨ c = '_' then
      let isPart (c : Char) : Bool := c.isAlphanum || c = '_'
      .name (String.ofList (c :: rest.takeWhile isPart)) :: tokens fuel (rest.dropWhile isPart)
    else
      match signs.find? fun sign => sign.toList.isPrefixOf (c :: rest) with
      | some sign => .sign sign :: tokens fuel ((c :: rest).drop sign.length)
      | none => .unknown :: tokens fuel rest

/-! ## Computing -/

/-- What a sign between two numbers makes of them. -/
def combine (sign : String) (a b : Int) : Except Fault Int :=
  let truth (p : Bool) : Except Fault Int := .ok (if p then 1 else 0)
  let bitwise (f : Nat → Nat → Nat) : Except Fault Int := .ok (wrap (f (bits a) (bits b)))
  match sign with
  | "*" => .ok (wrap (a * b))
  | "/" => if b = 0 then .error .divisionByZero else .ok (wrap (a.tdiv b))
  | "%" => if b = 0 then .error .divisionByZero else .ok (a.tmod b)
  | "+" => .ok (wrap (a + b))
  | "-" => .ok (wrap (a - b))
  | "<<" => .ok (wrap (a * Int.ofNat (Nat.pow 2 (bits b % 64))))
  | ">>" => .ok (a.fdiv (Int.ofNat (Nat.pow 2 (bits b % 64))))
  | "<" => truth (a < b)
  | "<=" => truth (a ≤ b)
  | ">" => truth (b < a)
  | ">=" => truth (b ≤ a)
  | "==" => truth (a = b)
  | "!=" => truth (a ≠ b)
  | "&" => bitwise Nat.land
  | "^" => bitwise Nat.xor
  | _ => bitwise Nat.lor

/-- The signs between two numbers by how tightly they bind, the loosest first. -/
def levels : List (List String) :=
  [["|"], ["^"], ["&"], ["==", "!="], ["<", "<=", ">", ">="], ["<<", ">>"], ["+", "-"],
    ["*", "/", "%"]]

/-- An expression that is being computed: the tokens that are left, and the variables that were set.
-/
structure State where
  tokens : List Token
  changes : List (String × Int)

/-- A step of a computation. -/
abbrev Step := StateT State (Except Fault)

/-- Take a sign if it comes next. -/
def taken? (sign : String) : Step Bool := do
  let s ← get
  match s.tokens with
  | .sign other :: rest =>
    if other = sign then
      set { s with tokens := rest }
      pure true
    else pure false
  | _ => pure false

/-- Take one of some signs if it comes next. -/
def takenOf? (among : List String) : Step (Option String) := do
  let s ← get
  match s.tokens with
  | .sign sign :: rest =>
    if among.contains sign then
      set { s with tokens := rest }
      pure (some sign)
    else pure none
  | _ => pure none

/-- The value of a variable. -/
def value (valueOf? : String → Option String) (name : String) : Step Int := do
  match (← get).changes.lookup name with
  | some n => pure n
  | none => liftM (ofValue ((valueOf? name).getD ""))

mutual

/-- An assignment or a choice. `live` says that it is computed. -/
def assignment (valueOf? : String → Option String) : Nat → Bool → Step Int
  | 0, _ => throw (.expected "primary")
  | fuel + 1, live => do
    let s ← get
    match s.tokens with
    | .name name :: .sign sign :: rest =>
      if sign = "=" then
        set { s with tokens := rest }
        let n ← assignment valueOf? fuel live
        assign live name n
      else if sign.length ≥ 2 ∧ sign.endsWith "=" ∧
          !(["<=", ">=", "==", "!="].contains sign) then
        set { s with tokens := rest }
        let n ← assignment valueOf? fuel live
        if live then
          let old ← value valueOf? name
          assign live name (← liftM (combine (sign.dropEnd 1).toString old n))
        else pure n
      else choice valueOf? fuel live
    | _ => choice valueOf? fuel live
where
  /-- Set a variable. -/
  assign (live : Bool) (name : String) (n : Int) : Step Int := do
    if live then modify fun s => { s with changes := (name, n) :: s.changes }
    pure n

/-- A choice between two expressions. -/
def choice (valueOf? : String → Option String) : Nat → Bool → Step Int
  | 0, _ => throw (.expected "primary")
  | fuel + 1, live => do
    let a ← disjunction valueOf? fuel live
    if ← taken? "?" then
      let b ← assignment valueOf? fuel (live && a ≠ 0)
      if !(← taken? ":") then throw (.expected "':'")
      let c ← choice valueOf? fuel (live && a = 0)
      pure (if a ≠ 0 then b else c)
    else pure a

/-- Expressions joined by `||`. -/
def disjunction (valueOf? : String → Option String) : Nat → Bool → Step Int
  | 0, _ => throw (.expected "primary")
  | fuel + 1, live => do
    let a ← conjunction valueOf? fuel live
    if ← taken? "||" then
      let b ← disjunction valueOf? fuel (live && a = 0)
      pure (if a ≠ 0 || b ≠ 0 then 1 else 0)
    else pure a

/-- Expressions joined by `&&`. -/
def conjunction (valueOf? : String → Option String) : Nat → Bool → Step Int
  | 0, _ => throw (.expected "primary")
  | fuel + 1, live => do
    let a ← binary valueOf? fuel levels live
    if ← taken? "&&" then
      let b ← conjunction valueOf? fuel (live && a ≠ 0)
      pure (if a ≠ 0 && b ≠ 0 then 1 else 0)
    else pure a

/-- Expressions joined by the signs of some levels. -/
def binary (valueOf? : String → Option String) : Nat → List (List String) → Bool → Step Int
  | 0, _, _ => throw (.expected "primary")
  | fuel + 1, [], live => primary valueOf? fuel live
  | fuel + 1, level :: tighter, live => do
    let a ← binary valueOf? fuel tighter live
    further valueOf? fuel level tighter live a

/-- What is joined to a value by the signs of a level. -/
def further (valueOf? : String → Option String) : Nat → List String → List (List String) → Bool →
    Int → Step Int
  | 0, _, _, _, _ => throw (.expected "primary")
  | fuel + 1, level, tighter, live, a => do
    match ← takenOf? level with
    | none => pure a
    | some sign =>
      let b ← binary valueOf? fuel tighter live
      let joined ← if live then liftM (combine sign a b) else pure b
      further valueOf? fuel level tighter live joined

/-- A number, a variable, or an expression behind a sign or in parentheses. -/
def primary (valueOf? : String → Option String) : Nat → Bool → Step Int
  | 0, _ => throw (.expected "primary")
  | fuel + 1, live => do
    let s ← get
    match s.tokens with
    | .number n :: rest =>
      set { s with tokens := rest }
      pure n
    | .name name :: rest =>
      set { s with tokens := rest }
      if live then value valueOf? name else pure 0
    | .sign sign :: rest =>
      set { s with tokens := rest }
      match sign with
      | "(" =>
        let n ← assignment valueOf? fuel live
        if !(← taken? ")") then throw (.expected "')'")
        pure n
      | "+" => primary valueOf? fuel live
      | "-" => do pure (wrap (-(← primary valueOf? fuel live)))
      | "!" => do pure (if (← primary valueOf? fuel live) = 0 then 1 else 0)
      | "~" => do pure (-(← primary valueOf? fuel live) - 1)
      | _ => throw (.expected "primary")
    | _ => throw (.expected "primary")

end

/-- The value of an expression, and the variables that it sets, the last one first. -/
def evaluate (valueOf? : String → Option String) (expression : String) :
    Except Fault (Int × List (String × Int)) := do
  let all := tokens (expression.length + 1) expression.toList
  let run : Step Int := do
    let n ← assignment valueOf? (16 * all.length + 16) true
    if !(← get).tokens.isEmpty then throw (.expected "EOF")
    pure n
  let (n, s) ← run ⟨all, []⟩
  pure (n, s.changes)

end CSharpBuild.Machine.Arithmetic
