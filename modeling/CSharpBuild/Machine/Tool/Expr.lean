/-
The tool that computes an expression that its arguments write, one sign or operand each, and writes
what comes out. Its status says whether that is something other than nothing or zero.
-/
import CSharpBuild.Machine.Regex.Reader
import CSharpBuild.Machine.Tool

namespace CSharpBuild.Machine.Tool.Expr

/-- What may be wrong with an expression. -/
inductive Fault where
  | lacking (last : String)
  | unexpected (arg : String)
  | unexpectedClosing
  | unclosed (last : String)
  | notClosing (arg : String)
  | notInteger
  | zeroDivision
  | regex (fault : Regex.Fault)
  deriving Repr, DecidableEq

/-- A fault in words. -/
def Fault.words : Fault → String
  | .lacking last => "syntax error: missing argument after " ++ quoted last
  | .unexpected arg => "syntax error: unexpected argument " ++ quoted arg
  | .unexpectedClosing => "syntax error: unexpected ')'"
  | .unclosed last => "syntax error: expecting ')' after " ++ quoted last
  | .notClosing arg => "syntax error: expecting ')' instead of " ++ quoted arg
  | .notInteger => "non-integer argument"
  | .zeroDivision => "division by zero"
  | .regex fault => fault.words

/-- The whole number that a text writes. -/
def integer? (text : String) : Option Int :=
  let (negative, digits) : Bool × List Char :=
    match text.toList with
    | '-' :: rest => (true, rest)
    | chars => (false, chars)
  if digits.isEmpty || !digits.all Char.isDigit then none
  else
    let n : Int := Text.Numeral.ofDigits 10 digits
    some (if negative then -n else n)

/-- Whether a text is nothing, or zero. -/
def isNull (text : String) : Bool :=
  let digits := match text.toList with
    | '-' :: rest => rest
    | chars => chars
  text.isEmpty || (!digits.isEmpty && digits.all (· = '0'))

/-- What is left of the arguments, and the last one that was taken. -/
structure Reading where
  args : List String
  last : String

/-- A step of reading. -/
abbrev Step := StateT Reading (Except Fault)

/-- Take an argument. -/
def take : Step String := do
  let s ← get
  match s.args with
  | [] => throw (.lacking s.last)
  | arg :: rest =>
    set (⟨rest, arg⟩ : Reading)
    pure arg

/-- Take an argument if it is one of some. -/
def takeIf (signs : List String) : Step (Option String) := do
  match (← get).args with
  | arg :: _ => if signs.contains arg then some <$> take else pure none
  | [] => pure none

/-- What a basic regular expression matches at the front of a text: its first group, or how much if
there is none. -/
def matched (text pattern : String) : Except Fault String :=
  match Regex.read (.plain false) pattern with
  | .error fault => .error (.regex fault)
  | .ok (r, groups) =>
    let t := Regex.Subject.ofText false false text.toList
    match Regex.matchAt? t r (fun _ _ => true) 0 with
    | some m =>
      .ok (if groups = 0 then toString m.stop else String.ofList (m.group t 1))
    | none => .ok (if groups = 0 then "0" else "")

/-- The first place in a text, from one on, at which there is one of some characters. -/
def indexOf (text chars : String) : Nat :=
  match text.toList.findIdx? fun c => chars.contains c with
  | some i => i + 1
  | none => 0

/-- A part of a text. -/
def substring (text start length : String) : String :=
  match integer? start, integer? length with
  | some start, some length =>
    if start < 1 || length < 1 then ""
    else String.ofList ((text.toList.drop (start - 1).toNat).take length.toNat)
  | _, _ => ""

/-- Whether a comparison holds. -/
def compares (sign left right : String) : Bool :=
  let order : Ordering :=
    match integer? left, integer? right with
    | some a, some b => compare a b
    | _, _ => compare left right
  match sign with
  | "<" => order = .lt
  | "<=" => order ≠ .gt
  | "=" | "==" => order = .eq
  | "!=" => order ≠ .eq
  | ">=" => order ≠ .lt
  | _ => order = .gt

/-- Compute with two whole numbers. -/
def compute (sign left right : String) : Except Fault String :=
  match integer? left, integer? right with
  | some a, some b =>
    match sign with
    | "+" => .ok (toString (a + b))
    | "-" => .ok (toString (a - b))
    | "*" => .ok (toString (a * b))
    | "/" => if b = 0 then .error .zeroDivision else .ok (toString (Int.tdiv a b))
    | _ => if b = 0 then .error .zeroDivision else .ok (toString (Int.tmod a b))
  | _, _ => .error .notInteger

/-- The signs between two operands, by how loosely they bind, from comparisons on. -/
def levels : List (List String) :=
  [["<", "<=", "=", "==", "!=", ">=", ">"], ["+", "-"], ["*", "/", "%"], [":"]]

/-- Apply a sign. `counts` says that the result is of interest. -/
def apply (counts : Bool) (sign left right : String) : Except Fault String :=
  if !counts then .ok ""
  else if sign = ":" then matched left right
  else if ["+", "-", "*", "/", "%"].contains sign then compute sign left right
  else .ok (if compares sign left right then "1" else "0")

mutual

/-- One expression or another. Each level goes one step down and each sign takes an argument, so
`fuel` is a multiple of the number of arguments. -/
def disjunction : Nat → Bool → Step String
  | 0, _ => throw .notInteger
  | fuel + 1, counts => do moreDisjunction fuel counts (← conjunction fuel counts)

/-- What comes behind an operand of `|`. -/
def moreDisjunction : Nat → Bool → String → Step String
  | 0, _, left => pure left
  | fuel + 1, counts, left => do
    match ← takeIf ["|"] with
    | none => pure left
    | some _ =>
      let right ← conjunction fuel (counts && isNull left)
      let value := if !isNull left then left else if isNull right then "0" else right
      moreDisjunction fuel counts value

/-- Two expressions of which both count. -/
def conjunction : Nat → Bool → Step String
  | 0, _ => throw .notInteger
  | fuel + 1, counts => do moreConjunction fuel counts (← binary fuel counts levels)

/-- What comes behind an operand of `&`. -/
def moreConjunction : Nat → Bool → String → Step String
  | 0, _, left => pure left
  | fuel + 1, counts, left => do
    match ← takeIf ["&"] with
    | none => pure left
    | some _ =>
      let right ← binary fuel (counts && !isNull left) levels
      moreConjunction fuel counts (if isNull left || isNull right then "0" else left)

/-- An expression with the signs of some levels. -/
def binary : Nat → Bool → List (List String) → Step String
  | 0, _, _ => throw .notInteger
  | fuel + 1, counts, [] => keyword fuel counts
  | fuel + 1, counts, signs :: tighter => do
    moreBinary fuel counts signs tighter (← binary fuel counts tighter)

/-- What comes behind an operand of a sign. -/
def moreBinary : Nat → Bool → List String → List (List String) → String → Step String
  | 0, _, _, _, left => pure left
  | fuel + 1, counts, signs, tighter, left => do
    match ← takeIf signs with
    | none => pure left
    | some sign =>
      let right ← binary fuel counts tighter
      moreBinary fuel counts signs tighter (← liftM (apply counts sign left right))

/-- An operand that may begin with a keyword. -/
def keyword : Nat → Bool → Step String
  | 0, _ => throw .notInteger
  | fuel + 1, counts => do
    match ← takeIf ["+", "length", "match", "index", "substr"] with
    | some "+" => take
    | some "length" => do pure (toString (← keyword fuel counts).length)
    | some "match" => do
      let text ← keyword fuel counts
      let pattern ← keyword fuel counts
      if counts then liftM (matched text pattern) else pure ""
    | some "index" => do
      let text ← keyword fuel counts
      pure (toString (indexOf text (← keyword fuel counts)))
    | some _ => do
      let text ← keyword fuel counts
      let start ← keyword fuel counts
      pure (substring text start (← keyword fuel counts))
    | none => operand fuel counts

/-- An operand, or an expression in parentheses. -/
def operand : Nat → Bool → Step String
  | 0, _ => throw .notInteger
  | fuel + 1, counts => do
    match ← take with
    | "(" =>
      let value ← disjunction fuel counts
      let s ← get
      match s.args with
      | [] => throw (.unclosed s.last)
      | ")" :: _ =>
        let _ ← take
        pure value
      | arg :: _ => throw (.notClosing arg)
    | ")" => throw .unexpectedClosing
    | arg => pure arg

end

/-- The value of an expression. -/
def evaluate (args : List String) : Except Fault String := do
  let (value, s) ← (disjunction (16 * args.length + 16) true).run ⟨args, ""⟩
  match s.args with
  | [] => .ok value
  | arg :: _ => .error (.unexpected arg)

/-- Compute an expression and write its value. -/
def expr : Tool := fun c =>
  let args := if c.args.head? = some "--" then c.args.tail else c.args
  if args.isEmpty then misused 2 "missing operand" c
  else
    match evaluate args with
    | .error fault => refuses 2 fault.words c
    | .ok value =>
      { (Effect.nothing c).line value with status := if isNull value then 1 else 0 }

end CSharpBuild.Machine.Tool.Expr
