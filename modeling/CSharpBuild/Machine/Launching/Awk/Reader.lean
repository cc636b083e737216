/-
Reading programs that take records apart. A statement in which something is wrong is told and
skipped, so that more than one fault may be found; whether functions are called with what they
expect is known when everything has been read.
-/
import CSharpBuild.Machine.Launching.Awk.Token

namespace CSharpBuild.Machine.Launching.Awk.Reader

open Text

/-- Whether a statement that is missing something may go on with a token. -/
def isEnd : Token → Bool
  | .finish | .newline | .semicolon _ => true
  | t => t.isSign "\x7d"

/-- Whether a token begins another part of a program. -/
def isOutside : Token → Bool
  | .finish => true
  | t => t.isKeyword "BEGIN" || t.isKeyword "END"

/-- Fail at the next token. -/
def refuse {α : Type} : Step α := do
  let t ← peek
  let r ← get
  if r.silence = 0 then
    match t.words? with
    | none =>
      match t with
      | .unexpected c =>
        tell (toString r.tokenLine ++ ": unexpected character '" ++ String.singleton c ++ "'")
      | _ => complain "syntax error"
    | some words =>
      if r.parentheses ≠ 0 && isEnd t then
        set { r with parentheses := 0 }
        complain ("missing ) near " ++ words)
      else if r.braces ≠ 0 && isOutside t then
        set { r with braces := 0 }
        complain ("missing \x7d near " ++ words)
      else complain ("syntax error at or near " ++ words)
  throw .fault

/-- Take a sign that has to come. -/
def expect (sign : String) : Step Unit := do
  if (← peek).isSign sign then
    let _ ← take
  else refuse

/-- Take a word that has to come. -/
def expectWord (word : String) : Step Unit := do
  if (← peek).isKeyword word then
    let _ ← take
  else refuse

/-- Take the end of a statement. -/
def separator : Step Unit := do
  match ← peek with
  | .newline | .semicolon _ =>
    let _ ← take
  | _ => refuse

/-- Take a name. -/
def anyName : Step String := do
  match ← peek with
  | .name n =>
    let _ ← take
    pure n
  | _ => refuse

/-! ## Names -/

/-- What a kind is called. -/
def Kind.words : Kind → String
  | .scalar => "variable"
  | .array => "array"
  | .function => "function"

/-- The name of something, and what it has turned out to be. -/
def found (name : String) : Step (Name × Option Kind) := do
  let r ← get
  match r.parameters.findIdx? (·.1 = name) with
  | some number => pure (.parameter number, (r.parameters[number]?).bind Prod.snd)
  | none => pure (.shared name, r.names[name]?)

/-- Use a name as that of a variable or an array. -/
def use (kind : Kind) (name : String) : Step Name := do
  let (found, known) ← found name
  match known with
  | some other =>
    if other ≠ kind then
      let scope := match found with
        | .parameter _ => "local "
        | .shared _ => ""
      complain ("illegal reference to " ++ scope ++ Kind.words other ++ " " ++ name)
  | none =>
    modify fun r =>
      match found with
      | .parameter _ => { r with
          parameters := r.parameters.map fun p => if p.1 = name then (name, some kind) else p }
      | .shared _ => { r with names := r.names.insert name kind }
  pure found

/-- Read an expression between slashes, or a text that is one. -/
def pattern (text : String) : Step Expr := do
  match Pattern.read text with
  | .ok regex => pure (.pattern regex)
  | .error fault =>
    complain ("regular expression compile failed (" ++ fault.words ++ ")\n" ++ text)
    pure (.pattern .empty)

/-- An expression as a pattern. -/
def asPattern : Expr → Step Expr
  | .text text => pattern text
  | e => pure e

/-! ## Expressions -/

/-- How many arguments a function takes. -/
def arity : Builtin → Nat × Nat
  | .length | .seed | .flush => (0, 1)
  | .substring => (2, 3)
  | .index | .find | .arcTangent => (2, 2)
  | .format => (1, 255)
  | .random | .time => (0, 0)
  | _ => (1, 1)

/-- The operator of an assignment, if a token is one. -/
def assignment? (t : Token) : Option (Option Operator) :=
  match t with
  | .sign "=" => some none
  | .sign "+=" => some (some .plus)
  | .sign "-=" => some (some .minus)
  | .sign "*=" => some (some .times)
  | .sign "/=" => some (some .over)
  | .sign "%=" => some (some .rest)
  | .sign "^=" => some (some .power)
  | _ => none

/-- The comparison of a sign. -/
def comparison? (t : Token) : Option Comparison :=
  match t with
  | .sign "==" => some .equal
  | .sign "!=" => some .unequal
  | .sign "<" => some .less
  | .sign "<=" => some .atMost
  | .sign ">" => some .greater
  | .sign ">=" => some .atLeast
  | _ => none

/-- Whether a value that is joined to another may begin with a token. -/
def beginsValue : Token → Bool
  | .number .. | .text _ | .pattern _ | .name _ | .functionName _ | .builtin .. | .length | .field _
  | .step _ => true
  | .sign s => s = "$" || s = "(" || s = "!"
  | .keyword word => ["getline", "split", "match", "sub", "gsub"].contains word
  | _ => false

/-- An expression that has been read, and whether it can be assigned to. -/
abbrev Begun := Expr × Bool

/-- What an expression is as an argument of a call. -/
def argumentOf (name : Option String) : Step Argument := do
  match name with
  | none => pure (.known .scalar)
  | some name =>
    match ← found name with
    | (_, some kind) => pure (.known kind)
    | (.shared _, none) => pure (.unknown name none)
    | (.parameter _, none) => pure (.unknown name (← get).scope)

mutual

/-- Read an expression of which the operators bind at least as strongly as a level says. Each step
takes a token, which bounds `fuel`. -/
def expression : Nat → Nat → Option Begun → Step Expr
  | 0, _, _ => refuse
  | fuel + 1, level, begun => do
    let left ← operand fuel begun
    operators fuel level left

/-- Read the operators behind an operand. -/
def operators : Nat → Nat → Expr → Step Expr
  | 0, _, _ => refuse
  | fuel + 1, level, left => do
    let t ← peek
    if t.isSign "?" && level ≤ 1 then
      let _ ← take
      let first ← expression fuel 0 none
      expect ":"
      let second ← expression fuel 1 none
      operators fuel level (.choose left first second)
    else if t.isSign "||" && level ≤ 2 then
      let _ ← take
      operators fuel level (.either left (← expression fuel 3 none))
    else if t.isSign "&&" && level ≤ 3 then
      let _ ← take
      operators fuel level (.both left (← expression fuel 4 none))
    else if t.isKeyword "in" && level ≤ 4 then
      let _ ← take
      operators fuel level (.isIn [left] (← use .array (← anyName)))
    else
      match t, comparison? t with
      | .matching expected, _ =>
        if level ≤ 5 then
          let _ ← take
          let right ← asPattern (← expression fuel 6 none)
          operators fuel level (.matching expected left right)
        else pure left
      | _, some comparison =>
        if level ≤ 6 then
          let _ ← take
          operators fuel level (.compare comparison left (← expression fuel 7 none))
        else pure left
      | _, none => pure left

/-- Read an operand: an assignment, or values that are joined. -/
def operand : Nat → Option Begun → Step Expr
  | 0, _ => refuse
  | fuel + 1, begun => do
    let t ← peek
    match begun, t with
    | some begun, _ => assigned fuel begun
    | none, .name _ | none, .field _ => assigned fuel (← primary fuel)
    | none, .sign "$" => assigned fuel (← primary fuel)
    | none, .sign "(" =>
      let _ ← take
      let first ← expression fuel 0 none
      if (← peek).isSign "," then
        let index ← restOfList fuel [first]
        expect ")"
        expectWord "in"
        pure (.isIn index (← use .array (← anyName)))
      else
        expect ")"
        assigned fuel (← afterParentheses first)
    | none, _ => joined fuel none

/-- Read an assignment to what has been read, or what it is joined to. -/
def assigned : Nat → Begun → Step Expr
  | 0, _ => refuse
  | fuel + 1, (target, isTarget) => do
    match isTarget, assignment? (← peek) with
    | true, some operator =>
      let _ ← take
      pure (.assign target operator (← expression fuel 0 none))
    | _, _ => joined fuel (some target)

/-- Read values that are joined. -/
def joined : Nat → Option Expr → Step Expr
  | 0, _ => refuse
  | fuel + 1, begun => do restOfJoined fuel (← sum fuel begun)

/-- Read the values that one is joined to. -/
def restOfJoined : Nat → Expr → Step Expr
  | 0, _ => refuse
  | fuel + 1, left => do
    if beginsValue (← peek) then restOfJoined fuel (.join left (← sum fuel none))
    else pure left

/-- Read a sum. -/
def sum : Nat → Option Expr → Step Expr
  | 0, _ => refuse
  | fuel + 1, begun => do restOfSum fuel (← product fuel begun)

/-- Read what is added. -/
def restOfSum : Nat → Expr → Step Expr
  | 0, _ => refuse
  | fuel + 1, left => do
    let t ← peek
    if t.isSign "+" || t.isSign "-" then
      let _ ← take
      let operator : Operator := if t.isSign "+" then .plus else .minus
      restOfSum fuel (.compute operator left (← product fuel none))
    else pure left

/-- Read a product. -/
def product : Nat → Option Expr → Step Expr
  | 0, _ => refuse
  | fuel + 1, begun => do restOfProduct fuel (← signed fuel begun)

/-- Read what is multiplied. -/
def restOfProduct : Nat → Expr → Step Expr
  | 0, _ => refuse
  | fuel + 1, left => do
    let operator? : Option Operator := match ← peek with
      | .sign "*" => some .times
      | .sign "/" => some .over
      | .sign "%" => some .rest
      | _ => none
    match operator? with
    | some operator =>
      let _ ← take
      restOfProduct fuel (.compute operator left (← signed fuel none))
    | none => pure left

/-- Read a value with signs in front of it. -/
def signed : Nat → Option Expr → Step Expr
  | 0, _ => refuse
  | fuel + 1, some begun => piped fuel (some begun)
  | fuel + 1, none => do
    match ← peek with
    | .sign "!" =>
      let _ ← take
      pure (.opposite (← signed fuel none))
    | .sign "-" =>
      let _ ← take
      pure (.negative (← signed fuel none))
    | .sign "+" =>
      let _ ← take
      pure (.positive (← signed fuel none))
    | _ => piped fuel none

/-- Read a value, or the records of a command. -/
def piped : Nat → Option Expr → Step Expr
  | 0, _ => refuse
  | fuel + 1, begun => do restOfPiped fuel (← powered fuel begun)

/-- Read the records of a command. -/
def restOfPiped : Nat → Expr → Step Expr
  | 0, _ => refuse
  | fuel + 1, left => do
    if (← peek).isSign "|" then
      let _ ← take
      expectWord "getline"
      restOfPiped fuel (.nextOf true left (← target? fuel))
    else pure left

/-- Read a power. -/
def powered : Nat → Option Expr → Step Expr
  | 0, _ => refuse
  | fuel + 1, begun => do
    let base ← match begun with
      | some base => pure base
      | none => Prod.fst <$> primary fuel
    if (← peek).isSign "^" then
      let _ ← take
      let t ← peek
      let exponent ←
        if t.isSign "-" || t.isSign "+" || t.isSign "!" then signed fuel none
        else powered fuel none
      pure (.compute .power base exponent)
    else pure base

/-- Read a value of one piece. -/
def primary : Nat → Step Begun
  | 0 => refuse
  | fuel + 1 => do
    let t ← peek
    match t with
    | .number value _ =>
      let _ ← take
      pure (.number value, false)
    | .text text =>
      let _ ← take
      pure (.text text, false)
    | .pattern text =>
      let _ ← take
      pure (← pattern text, false)
    | .name n =>
      let _ ← take
      afterName fuel n
    | .field n =>
      let _ ← take
      counted (.field (.number n.toFloat))
    | .functionName n =>
      let place := (← get).place
      let _ ← take
      expect "("
      let (values, arguments) ← callArguments fuel
      modify fun r => { r with calls := ⟨n, arguments, place⟩ :: r.calls }
      pure (.call n values, false)
    | .builtin function name =>
      let _ ← take
      expect "("
      let (values, _) ← callArguments fuel
      let (least, most) := arity function
      if values.length < least || most < values.length then
        complain ("wrong number of arguments in call to " ++ name)
      pure (.builtin function values, false)
    | .length =>
      let _ ← take
      pure (.builtin .length [], false)
    | .step up =>
      let _ ← take
      pure (.step (← target fuel) up true, false)
    | .sign "(" =>
      let _ ← take
      let e ← expression fuel 0 none
      expect ")"
      afterParentheses e
    | .sign "$" =>
      let _ ← take
      counted (← fieldBehindDollar fuel)
    | .keyword "getline" =>
      let _ ← take
      modify fun r => { r with afterGetline := true }
      let target ← target? fuel
      match ← peek with
      | .input =>
        let _ ← take
        let t ← peek
        let source ← if t.isSign "-" || t.isSign "+" then signed fuel none else powered fuel none
        pure (.nextOf false source target, false)
      | _ =>
        modify fun r => { r with afterGetline := false }
        pure (.next target, false)
    | .keyword "split" =>
      let _ ← take
      expect "("
      let text ← expression fuel 0 none
      expect ","
      let array ← use .array (← anyName)
      if (← peek).isSign "," then
        let _ ← take
        let separator ← expression fuel 0 none
        expect ")"
        pure (.split text array (some separator), false)
      else
        expect ")"
        pure (.split text array none, false)
    | .keyword "match" =>
      let _ ← take
      expect "("
      let text ← expression fuel 0 none
      expect ","
      let e ← asPattern (← expression fuel 0 none)
      expect ")"
      pure (.builtin .find [text, e], false)
    | .keyword word =>
      if word = "sub" || word = "gsub" then
        let _ ← take
        expect "("
        let e ← asPattern (← expression fuel 0 none)
        expect ","
        let replacement ← expression fuel 0 none
        if (← peek).isSign "," then
          let _ ← take
          let target ← target fuel
          expect ")"
          pure (.replace (word = "gsub") e replacement (some target), false)
        else
          expect ")"
          pure (.replace (word = "gsub") e replacement none, false)
      else refuse
    | _ => refuse

/-- Read the field behind a dollar sign. -/
def fieldBehindDollar : Nat → Step Expr
  | 0 => refuse
  | fuel + 1 => do
    match ← peek with
    | .fieldName n =>
      let _ ← take
      if (← peek).isSign "[" then
        let _ ← take
        let index ← list fuel
        expect "]"
        pure (.field (.element (← use .array n) index))
      else pure (.field (.named (← use .scalar n)))
    | .sign "-" | .sign "+" | .sign "!" => .field <$> signed fuel none
    | .sign "$" =>
      let _ ← take
      .field <$> fieldBehindDollar fuel
    | _ => .field <$> Prod.fst <$> primary fuel

/-- Read what stands behind a name. -/
def afterName : Nat → String → Step Begun
  | 0, _ => refuse
  | fuel + 1, n => do
    if (← peek).isSign "[" then
      let array ← use .array n
      let _ ← take
      let index ← list fuel
      expect "]"
      counted (.element array index)
    else counted (.named (← use .scalar n))

/-- Read what may be counted up or down behind it. -/
def counted (target : Expr) : Step Begun := do
  match ← peek with
  | .step up =>
    let _ ← take
    pure (.step target up false, false)
  | _ => pure (target, true)

/-- Read what stands behind parentheses: a field in them is still a field. -/
def afterParentheses (e : Expr) : Step Begun := do
  match e with
  | .field _ => counted e
  | e => pure (e, false)

/-- Read something that can be assigned to. -/
def target : Nat → Step Expr
  | 0 => refuse
  | fuel + 1 => do
    match ← peek with
    | .name n =>
      let _ ← take
      if (← peek).isSign "[" then
        let array ← use .array n
        let _ ← take
        let index ← list fuel
        expect "]"
        pure (.element array index)
      else pure (.named (← use .scalar n))
    | .field n =>
      let _ ← take
      pure (.field (.number n.toFloat))
    | .sign "$" =>
      let _ ← take
      fieldBehindDollar fuel
    | .sign "(" =>
      let _ ← take
      let e ← target fuel
      expect ")"
      pure e
    | _ => refuse

/-- Read what a record goes to, if anything is given. -/
def target? : Nat → Step (Option Expr)
  | 0 => refuse
  | fuel + 1 => do
    match ← peek with
    | .name _ | .field _ | .sign "$" => some <$> target fuel
    | _ => pure none

/-- Read expressions with commas between them. -/
def list : Nat → Step (List Expr)
  | 0 => refuse
  | fuel + 1 => do restOfList fuel [← expression fuel 0 none]

/-- Read the expressions behind some, which come last first. -/
def restOfList : Nat → List Expr → Step (List Expr)
  | 0, _ => refuse
  | fuel + 1, before => do
    if (← peek).isSign "," then
      let _ ← take
      restOfList fuel ((← expression fuel 0 none) :: before)
    else pure before.reverse

/-- Read the arguments of a call behind the opening parenthesis, up to the closing one. -/
def callArguments : Nat → Step (List Expr × List Argument)
  | 0 => refuse
  | fuel + 1 => do
    if (← peek).isSign ")" then
      let _ ← take
      pure ([], [])
    else restOfArguments fuel

/-- Read arguments, of which there is at least one. A name alone may be that of an array. -/
def restOfArguments : Nat → Step (List Expr × List Argument)
  | 0 => refuse
  | fuel + 1 => do
    let (value, argument) ← match ← peek with
      | .name n => do
        let _ ← take
        let t ← peek
        if t.isSign "," || t.isSign ")" then
          pure (.named (← found n).1, ← argumentOf (some n))
        else
          pure (← expression fuel 0 (some (← afterName fuel n)), .known .scalar)
      | _ => do pure (← expression fuel 0 none, .known .scalar)
    if (← peek).isSign "," then
      let _ ← take
      let (values, arguments) ← restOfArguments fuel
      pure (value :: values, argument :: arguments)
    else
      expect ")"
      pure ([value], [argument])

end

/-! ## Statements -/

/-- Read the values to print, which may be in parentheses. -/
def printed (fuel : Nat) : Step (List Expr) := do
  let t ← peek
  let finish (begun : Begun) : Step (List Expr) := do
    restOfList fuel [← expression fuel 0 (some begun)]
  if isEnd t || t matches .output _ then pure []
  else if t.isSign "(" then
    let _ ← take
    if (← peek).isSign ")" then
      let _ ← take
      pure []
    else
      let first ← expression fuel 0 none
      if (← peek).isSign "," then
        let values ← restOfList fuel [first]
        expect ")"
        if (← peek).isKeyword "in" then
          let _ ← take
          finish (.isIn values (← use .array (← anyName)), false)
        else pure values
      else
        expect ")"
        finish (← afterParentheses first)
  else list fuel

/-- Read where output goes. -/
def direction? (fuel : Nat) : Step (Option (Direction × Expr)) := do
  match ← peek with
  | .output direction =>
    let _ ← take
    pure (some (direction, ← expression fuel 0 none))
  | _ => pure none

/-- Skip the rest of a statement in which something is wrong. Each step takes a token, which bounds
`fuel`. -/
def recover : Nat → Step Unit
  | 0 => throw .quit
  | fuel + 1 => do
    match ← take with
    | .finish => throw .quit
    | .newline | .semicolon _ =>
      modify fun r => { r with
        afterPrint := false, afterGetline := false, parentheses := 0, silence := 0 }
    | _ => recover fuel

/-- Open a loop, and close it behind its body. -/
def inLoop {α : Type} (body : Step α) : Step α := do
  modify fun r => { r with loops := r.loops + 1 }
  let result ← body
  modify fun r => { r with loops := r.loops - 1 }
  pure result

/-- Read an expression in parentheses, and skip the ends of lines behind it. -/
def parenthesized (fuel : Nat) : Step Expr := do
  expect "("
  let e ← expression fuel 0 none
  expect ")"
  skipLines
  pure e

/-- Read an expression up to a sign or a semicolon, if there is one. -/
def optional (fuel : Nat) (ends : Token → Bool) (close : Step Unit) : Step (Option Expr) := do
  if ends (← peek) then
    close
    pure none
  else
    let e ← expression fuel 0 none
    close
    pure (some e)

/-- Whether a token is a semicolon. -/
def isSemicolon : Token → Bool
  | .semicolon _ => true
  | _ => false

/-- Take a semicolon. -/
def semicolon : Step Unit := do
  if isSemicolon (← peek) then
    let _ ← take
  else refuse

/-- Whether a token ends a statement. -/
def isSeparator : Token → Bool
  | .newline | .semicolon _ => true
  | _ => false

mutual

/-- Read a statement; if something is wrong with it, skip it. Each step takes a token, which bounds
`fuel`. -/
def statement : Nat → Step Statement
  | 0 => throw .quit
  | fuel + 1 => do
    let loops := (← get).loops
    tryCatch (statementAsIs fuel) fun
      | .quit => throw .quit
      | .fault => do
        recover ((← get).rest.length + 2)
        modify fun r => { r with loops := loops }
        pure .nothing

/-- Read a statement. -/
def statementAsIs : Nat → Step Statement
  | 0 => throw .quit
  | fuel + 1 => do
    let t ← peek
    match t with
    | .newline | .semicolon _ =>
      let _ ← take
      pure .nothing
    | .sign "\x7b" =>
      let _ ← take
      .block <$> statements fuel
    | .keyword "print" | .keyword "printf" =>
      let _ ← take
      modify fun r => { r with afterPrint := true }
      let values ← printed fuel
      let target ← direction? fuel
      separator
      if t.isKeyword "printf" && values.isEmpty then complain "no arguments in call to printf"
      modify fun r => { r with afterPrint := false }
      pure (if t.isKeyword "print" then .print values target else .format values target)
    | .keyword "if" =>
      let _ ← take
      let condition ← parenthesized fuel
      let first ← statement fuel
      if (← peek).isKeyword "else" then
        let _ ← take
        skipLines
        pure (.choice condition first (some (← statement fuel)))
      else pure (.choice condition first none)
    | .keyword "while" =>
      let _ ← take
      let condition ← parenthesized fuel
      .repeated condition <$> inLoop (statement fuel)
    | .keyword "do" =>
      let _ ← take
      skipLines
      let body ← inLoop (statement fuel)
      expectWord "while"
      expect "("
      let condition ← expression fuel 0 none
      expect ")"
      separator
      pure (.repeatedAfter body condition)
    | .keyword "for" =>
      let _ ← take
      expect "("
      loop fuel
    | .keyword "break" =>
      let _ ← take
      separator
      if (← get).loops = 0 then complain "break statement outside of loop"
      pure .leave
    | .keyword "continue" =>
      let _ ← take
      separator
      if (← get).loops = 0 then complain "continue statement outside of loop"
      pure .again
    | .keyword "next" =>
      let _ ← take
      separator
      if (← get).stage ≠ .main then complain "improper use of next"
      pure .nextRecord
    | .keyword "nextfile" =>
      let _ ← take
      separator
      if (← get).stage ≠ .main then complain "improper use of nextfile"
      pure .nextFile
    | .keyword "exit" =>
      let _ ← take
      .exit <$> optional fuel isSeparator separator
    | .keyword "return" =>
      let _ ← take
      let value ← optional fuel isSeparator separator
      if (← get).stage ≠ .function then complain "return outside function body"
      pure (.give value)
    | .keyword "delete" =>
      let _ ← take
      let array ← use .array (← anyName)
      if (← peek).isSign "[" then
        let _ ← take
        let index ← list fuel
        expect "]"
        separator
        pure (.delete array index)
      else
        separator
        pure (.deleteAll array)
    | _ =>
      let e ← expression fuel 0 none
      separator
      pure (.value e)

/-- Read a loop behind its opening parenthesis. -/
def loop : Nat → Step Statement
  | 0 => throw .quit
  | fuel + 1 => do
    let close : Step Unit := do
      expect ")"
      skipLines
    let countedLoop (start : Option Expr) : Step Statement := do
      let condition ← optional fuel isSemicolon semicolon
      let step ← optional fuel (·.isSign ")") close
      .counted start condition step <$> inLoop (statement fuel)
    match ← peek with
    | .name n =>
      let _ ← take
      if (← peek).isKeyword "in" then
        let _ ← take
        let name ← use .scalar n
        let array ← use .array (← anyName)
        close
        .forEach name array <$> inLoop (statement fuel)
      else
        let start ← expression fuel 0 (some (← afterName fuel n))
        semicolon
        countedLoop (some start)
    | _ => countedLoop (← optional fuel isSemicolon semicolon)

/-- Read statements up to a closing brace. -/
def statements : Nat → Step (List Statement)
  | 0 => throw .quit
  | fuel + 1 => do
    let t ← peek
    if t.isSign "\x7d" then
      let _ ← take
      pure []
    else
      let first ← statement fuel
      pure (first :: (← statements fuel))

end

/-! ## Programs -/

/-- What has been read of a program, the last first. -/
structure Parts where
  first : List Statement
  rules : List Rule
  last : List Statement

/-- Read a block. -/
def block (fuel : Nat) : Step Statement := do
  expect "\x7b"
  .block <$> statements fuel

/-- Read the statement of a rule, if it has one. -/
def ruleStatement? (fuel : Nat) : Step (Option Statement) := do
  if (← peek).isSign "\x7b" then some <$> block fuel
  else
    separator
    pure none

/-- Read the parameters of a function behind its opening parenthesis. Each takes a token, which
bounds `fuel`. -/
def parameters (function : String) : Nat → List String → Step (List String)
  | 0, _ => throw .quit
  | fuel + 1, before => do
    match ← peek with
    | .name n =>
      let _ ← take
      if before.contains n then complain (n ++ " is duplicated in argument list")
      let all := before ++ [n]
      if (← peek).isSign "," then
        let _ ← take
        parameters function fuel all
      else
        expect ")"
        pure all
    | .functionName n =>
      if n = function then complain "function parameter cannot be the function"
      refuse
    | t =>
      if t.isSign ")" && before.isEmpty then
        let _ ← take
        pure []
      else refuse

/-- Read a function behind its word. -/
def function (fuel : Nat) : Step Unit := do
  let name ← match ← peek with
    | .name n => do
      let _ ← take
      use .function n *> pure n
    | .functionName n => do
      let _ ← take
      if (← get).functions.any (·.name = n) then complain ("redefinition of " ++ n)
      pure n
    | _ => refuse
  expect "("
  let names ← parameters name fuel []
  skipLines
  modify fun r => { r with
    scope := some name, parameters := names.map fun n => (n, none), stage := .function }
  let body ← block fuel
  modify fun r => { r with
    functions := ⟨name, r.parameters, body⟩ :: r.functions
    scope := none
    parameters := []
    stage := .main }

/-- Skip to the next block, and read it for its faults only. Each step takes a token, which bounds
`fuel`. -/
def recoverOutside : Nat → Step Unit
  | 0 => throw .quit
  | fuel + 1 => do
    let t ← peek
    if t.isSign "\x7b" then
      let _ ← block fuel
    else if t matches .finish then throw .quit
    else
      let silence := (← get).silence
      let _ ← take
      modify fun r => { r with silence := silence }
      recoverOutside fuel

/-- Read one part of a program. -/
def part (fuel : Nat) (p : Parts) : Step Parts := do
  let t ← peek
  let staged (stage : Stage) : Step Statement := do
    let _ ← take
    modify fun r => { r with stage := stage }
    let body ← block fuel
    modify fun r => { r with stage := .main }
    pure body
  if t.isKeyword "BEGIN" then
    let body ← staged .first
    pure { p with first := body :: p.first }
  else if t.isKeyword "END" then
    let body ← staged .last
    pure { p with last := body :: p.last }
  else if t.isKeyword "function" then
    let _ ← take
    function fuel
    pure p
  else if t.isSign "\x7b" then
    let body ← block fuel
    pure { p with rules := ⟨.always, some body⟩ :: p.rules }
  else
    let first ← expression fuel 0 none
    if (← peek).isSign "," then
      let _ ← take
      let last ← expression fuel 0 none
      let body ← ruleStatement? fuel
      pure { p with rules := ⟨.range first last, body⟩ :: p.rules }
    else
      let body ← ruleStatement? fuel
      pure { p with rules := ⟨.holds first, body⟩ :: p.rules }

/-- Read the parts of a program. -/
def parts : Nat → Parts → Step Parts
  | 0, p => pure p
  | fuel + 1, p => do
    if (← peek) matches .finish then pure p
    else
      let p ← tryCatch (part fuel p) fun
        | .quit => throw .quit
        | .fault => do
          modify fun r => { r with
            scope := none, parameters := [], stage := .main, loops := 0, silence := 3 }
          recoverOutside ((← get).rest.length + 2)
          pure p
      parts fuel p

/-! ## Calls -/

/-- What is known of the names that calls pass on: of those that functions share, and of the
parameters of each function. -/
structure Knowledge where
  names : Std.HashMap String Kind
  functions : List Definition

namespace Knowledge

/-- What a parameter of a function is. -/
def parameter? (k : Knowledge) (function : String) (number : Nat) : Option Kind :=
  (k.functions.find? (·.name = function)).bind fun d => (d.parameters[number]?).bind Prod.snd

/-- Learn what a parameter is. -/
def learn (k : Knowledge) (function : String) (number : Nat) (kind : Kind) : Knowledge :=
  { k with functions := k.functions.map fun d =>
      if d.name = function then
        { d with parameters := d.parameters.modify number fun p => (p.1, some kind) }
      else d }

/-- The number of a parameter. -/
def number? (k : Knowledge) (function name : String) : Option Nat :=
  (k.functions.find? (·.name = function)).bind fun d => d.parameters.findIdx? (·.1 = name)

/-- What an argument is. -/
def kind? (k : Knowledge) : Argument → Option Kind
  | .known kind => some kind
  | .unknown name none => k.names[name]?
  | .unknown name (some function) => (k.number? function name).bind (k.parameter? function)

/-- Learn from an argument of a call. -/
def learnFrom (k : Knowledge) (c : Call) (number : Nat) (a : Argument) : Knowledge :=
  match k.kind? a, k.parameter? c.function number, a with
  | some .array, none, _ => k.learn c.function number .array
  | none, some kind, .unknown name none => { k with names := k.names.insert name kind }
  | none, some kind, .unknown name (some function) =>
    match k.number? function name with
    | some number => k.learn function number kind
    | none => k
  | _, _, _ => k

/-- Learn from all calls, again and again: each round settles at least one name, if any more can
be. -/
def learnAll (calls : List Call) : Nat → Knowledge → Knowledge
  | 0, k => k
  | fuel + 1, k => learnAll calls fuel (calls.foldl (fun k c =>
      c.arguments.zipIdx.foldl (fun k (a, number) => k.learnFrom c number a) k) k)

/-- What is wrong with a call. -/
def flaws (k : Knowledge) (c : Call) : List String :=
  match k.functions.find? (·.name = c.function) with
  | none => []
  | some d =>
    if d.parameters.length < c.arguments.length then
      [c.place ++ "too many arguments in call to " ++ c.function]
    else
      c.arguments.zipIdx.filterMap fun (a, number) =>
        match k.kind? a, k.parameter? c.function number with
        | some given, some expected =>
          if given = expected then none
          else some (c.place ++ "type error in arg(" ++ toString (number + 1) ++ ") in call to "
            ++ c.function ++ " (actual local " ++ Kind.words given ++ " vs local "
            ++ Kind.words expected ++ ")")
        | _, _ => none

end Knowledge

/-- The names that have a meaning from the start. -/
def knownNames : List (String × Kind) :=
  ["NR", "FNR", "NF", "ARGC", "FILENAME", "OFS", "ORS", "FS", "RS", "SUBSEP", "RLENGTH", "RSTART",
    "CONVFMT", "OFMT"].map (fun name => (name, .scalar)) ++ [("ENVIRON", .array), ("ARGV", .array)]

/-- The start of reading a text. `scalars` are names that have been assigned to. -/
def start (title text : String) (scalars : List String) : Reading :=
  { rest := text.toList ++ ['\n'], title := title, line := 1, tokenLine := 1, last := .newline
    isAhead := false, parentheses := 0, braces := 0, afterPrint := false, afterGetline := false
    names := Std.HashMap.ofList (knownNames ++ scalars.map fun name => (name, .scalar))
    scope := none, parameters := [], calls := [], functions := [], stage := .main, loops := 0
    silence := 0, faults := [] }

/-- Read the text of a file, behind what has been read of others. -/
def readText (p : Parts) : Step Parts := do
  skipLines
  let fuel := 16 * (← get).rest.length + 64
  parts fuel p

/-- Read a program from texts, each with what its messages begin with. -/
def read (texts : List (String × String)) (scalars : List String) : Except (List String) Program :=
  let whole : Step Parts := texts.foldlM (fun p (title, text) => do
    modify fun r => { start title text [] with
      names := r.names, calls := r.calls, functions := r.functions, faults := r.faults }
    readText p) ⟨[], [], []⟩
  let (result, r) := whole.run (start "" "" scalars)
  match result, r.faults with
  | .ok p, [] =>
    let called := (r.calls.map Call.function).eraseDups
    let missing := called.filter fun f => !r.functions.any (·.name = f)
    let k : Knowledge := ⟨r.names, r.functions⟩
    let k := Knowledge.learnAll r.calls (r.calls.length + 1) k
    let flaws := missing.map (fun f => r.title ++ "line " ++ toString r.line ++ ": function " ++ f
      ++ " never defined") ++ r.calls.reverse.flatMap k.flaws
    if flaws.isEmpty then
      .ok ⟨p.first.reverse, p.rules.reverse, p.last.reverse,
        Std.HashMap.ofList (k.functions.map fun d =>
          (d.name, ⟨d.parameters.map fun p => p.2 = some .array, d.body⟩))⟩
    else .error flaws
  | _, faults => .error faults.reverse

end CSharpBuild.Machine.Launching.Awk.Reader
