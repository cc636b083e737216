/-
Conditions as `test` takes them: questions about texts, numbers and files, joined by `!`, `-a`, `-o`
and parentheses. `Condition.holds` answers the condition that a list of arguments writes; one that
cannot be read is refused with a complaint.

An argument is read as an operator or as a text by what stands behind it. Reading stays at the last
argument that was used, so that a complaint about what is left over names that one.
-/
import CSharpBuild.Machine.Arithmetic
import CSharpBuild.Machine.Disk

namespace CSharpBuild.Machine.Condition

/-- What an argument is. -/
inductive Kind where
  | ending
  | operand
  | unary
  | binary
  | negation
  | conjunction
  | disjunction
  | opening
  | closing
  deriving Repr, DecidableEq

/-- The operators in front of an operand. -/
def unaryOperators : List String :=
  ["-r", "-w", "-x", "-e", "-f", "-d", "-c", "-b", "-p", "-u", "-g", "-k", "-s", "-t", "-z", "-n",
    "-h", "-O", "-G", "-L", "-S"]

/-- The operators between two operands. -/
def binaryOperators : List String :=
  ["=", "!=", "<", ">", "-eq", "-ne", "-ge", "-gt", "-le", "-lt", "-nt", "-ot", "-ef"]

/-- What an argument is on its own, if it is no mere text. -/
def operator? (arg : String) : Option Kind :=
  match arg with
  | "!" => some .negation
  | "-a" => some .conjunction
  | "-o" => some .disjunction
  | "(" => some .opening
  | ")" => some .closing
  | _ =>
    if unaryOperators.contains arg then some .unary
    else if binaryOperators.contains arg then some .binary
    else none

/-- What the first of some arguments is. -/
def kind : List String → Kind
  | [] => .ending
  | arg :: rest =>
    match operator? arg, rest with
    | none, _ => .operand
    | some .unary, [] => .operand
    | some .unary, [_] => .unary
    | some .unary, next :: _ => if operator? next = some .binary then .operand else .unary
    | some .opening, [] => .operand
    | some other, _ => other

/-! ## Questions -/

/-- The whole number that an argument writes. -/
def integer (arg : String) : Except String Int :=
  let isBlank (c : Char) : Bool := c = ' ' || ('\t' ≤ c && c ≤ '\r')
  let text := arg.toList.dropWhile isBlank
  let (negative, digits) : Bool × List Char :=
    match text with
    | '-' :: rest => (true, rest)
    | '+' :: rest => (false, rest)
    | _ => (false, text)
  let taken := digits.takeWhile Char.isDigit
  let n : Int := Text.Numeral.ofDigits 10 taken
  let n := if negative then -n else n
  if taken.isEmpty ∨ !(digits.drop taken.length).all isBlank ∨ Arithmetic.clamp n ≠ n then
    .error ("Illegal number: " ++ arg)
  else .ok n

/-- Whether a path leads to something with a property. -/
def asks (d : Disk) (cwd : Place) (property : Node → Bool) (path : String) : Bool :=
  match d.find cwd path with
  | .ok node => property node
  | .error _ => false

/-- Whether something has content. -/
def hasContent : Node → Bool
  | .file content _ => !content.isEmpty
  | .directory | .program _ => true
  | .link _ | .sink | .zeros | .stream _ => false

/-- Whether something is a device. -/
def isDevice : Node → Bool
  | .sink | .zeros => true
  | _ => false

/-- Whether a path leads to a link. -/
def isLink (d : Disk) (cwd : Place) (path : String) : Bool :=
  match d.findLink cwd path with
  | .ok (_, node) => node.isLink
  | .error _ => false

/-- The answer to a question with one operand. -/
def unary (d : Disk) (cwd : Place) (operator operand : String) : Except String Bool :=
  let file (property : Node → Bool) : Except String Bool := .ok (asks d cwd property operand)
  match operator with
  | "-n" => .ok !operand.isEmpty
  | "-z" => .ok operand.isEmpty
  | "-e" | "-r" | "-w" | "-O" | "-G" => file fun _ => true
  | "-f" => file Node.isFile
  | "-d" => file fun node => node = .directory
  | "-x" => file fun node => node = .directory || node.isExecutable
  | "-s" => file hasContent
  | "-c" => file isDevice
  | "-h" | "-L" => .ok (isLink d cwd operand)
  | "-t" => (integer operand).map fun _ => false
  | _ => .ok false

/-- Whether two paths lead to the same place. -/
def sameFile (d : Disk) (cwd : Place) (left right : String) : Bool :=
  match d.locate ⟨true, false⟩ cwd left, d.locate ⟨true, false⟩ cwd right with
  | .ok a, .ok b => a = b
  | _, _ => false

/-- The answer to a question with two operands. All files are equally old. -/
def binary (d : Disk) (cwd : Place) (left operator right : String) : Except String Bool :=
  let compares (relation : Int → Int → Bool) : Except String Bool := do
    let a ← integer left
    let b ← integer right
    pure (relation a b)
  match operator with
  | "=" => .ok (left = right)
  | "!=" => .ok (left ≠ right)
  | "<" => .ok (left < right)
  | ">" => .ok (right < left)
  | "-eq" => compares fun a b => a = b
  | "-ne" => compares fun a b => a ≠ b
  | "-lt" => compares fun a b => a < b
  | "-le" => compares fun a b => a ≤ b
  | "-gt" => compares fun a b => b < a
  | "-ge" => compares fun a b => b ≤ a
  | "-ef" => .ok (sameFile d cwd left right)
  | _ => .ok false

/-! ## Reading -/

/-- An answer, and the arguments from the last one that was used. -/
abbrev Answered := Except String (Bool × List String)

mutual

/-- Conditions joined by `-o`, the first argument being of a given kind. Each level goes down one
step and each operator takes an argument, so `fuel` is a multiple of their number. -/
def anyOf (d : Disk) (cwd : Place) : Nat → Kind → List String → Answered
  | 0, _, args => .ok (false, args)
  | fuel + 1, first, args => do
    let (answer, args) ← allOf d cwd fuel first args
    if kind args.tail = .disjunction then
      let rest := args.drop 2
      let (more, args) ← anyOf d cwd fuel (kind rest) rest
      pure (answer || more, args)
    else pure (answer, args)

/-- Conditions joined by `-a`. -/
def allOf (d : Disk) (cwd : Place) : Nat → Kind → List String → Answered
  | 0, _, args => .ok (false, args)
  | fuel + 1, first, args => do
    let (answer, args) ← negatable d cwd fuel first args
    if kind args.tail = .conjunction then
      let rest := args.drop 2
      let (more, args) ← allOf d cwd fuel (kind rest) rest
      pure (answer && more, args)
    else pure (answer, args)

/-- A condition, perhaps negated. -/
def negatable (d : Disk) (cwd : Place) : Nat → Kind → List String → Answered
  | 0, _, args => .ok (false, args)
  | fuel + 1, .negation, args => do
    let next := kind args.tail
    let (answer, args) ← negatable d cwd fuel next (if next = .ending then args else args.tail)
    pure (!answer, args)
  | fuel + 1, first, args => primary d cwd fuel first args

/-- A question, or a condition in parentheses. -/
def primary (d : Disk) (cwd : Place) : Nat → Kind → List String → Answered
  | 0, _, args => .ok (false, args)
  | _ + 1, .ending, args => .ok (false, args)
  | fuel + 1, .opening, args => do
    let inner := kind args.tail
    if inner = .closing then pure (false, args.tail)
    else
      let (answer, args) ← anyOf d cwd fuel inner args.tail
      if kind args.tail = .closing then pure (answer, args.tail)
      else .error "closing paren expected"
  | _ + 1, .unary, args =>
    match args with
    | operator :: operand :: rest => do pure (← unary d cwd operator operand, operand :: rest)
    | _ => .error (args.headD "" ++ ": argument expected")
  | _ + 1, _, args =>
    match args with
    | left :: operator :: rest =>
      if kind (operator :: rest) = .binary then
        match rest with
        | right :: rest => do pure (← binary d cwd left operator right, right :: rest)
        | [] => .error (operator ++ ": argument expected")
      else .ok (!left.isEmpty, args)
    | _ => .ok (!(args.headD "").isEmpty, args)

end

/-- Whether some arguments hold, the first of them being of a given kind. -/
def whole (d : Disk) (cwd : Place) (first : Kind) (args : List String) : Except String Bool := do
  let (answer, left) ← anyOf d cwd (8 * args.length + 8) first args
  match left with
  | last :: _ :: _ =>
    .error (if last.isEmpty then "unexpected operator" else last ++ ": unexpected operator")
  | _ => pure answer

/-- How three arguments are read: whether negated, as what, and which of them. -/
def threePlan (negated : Bool) (a b c : String) : Bool × Kind × List String :=
  if operator? b = some .binary then (negated, .operand, [a, b, c])
  else if a = "(" ∧ c = ")" then (negated, kind [b], [b])
  else if a = "!" then (true, kind [b, c], [b, c])
  else (negated, kind [a, b, c], [a, b, c])

/-- How arguments are read. Three and four are read in the way that makes the most of them; a second
negation in front of them counts for nothing. -/
def plan : List String → Bool × Kind × List String
  | [a, b, c] => threePlan false a b c
  | [a, b, c, e] =>
    if a = "(" ∧ e = ")" then (false, kind [b, c], [b, c])
    else if a = "!" then threePlan true b c e
    else (false, kind [a, b, c, e], [a, b, c, e])
  | args => (false, kind args, args)

/-- Whether a condition holds. No arguments at all are a condition that does not. -/
def holds (d : Disk) (cwd : Place) (args : List String) : Except String Bool :=
  if args.isEmpty then .ok false
  else
    let (negated, first, args) := plan args
    (whole d cwd first args).map fun answer => answer ≠ negated

end CSharpBuild.Machine.Condition
