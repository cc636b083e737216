/-
Reading regular expressions, in the basic dialect, in which most signs need a backslash to mean
something, and in the extended one, in which they need one to mean nothing.
-/
import CSharpBuild.Machine.Regex
import CSharpBuild.Text
import CSharpBuild.Text.Numeral

namespace CSharpBuild.Machine.Regex

/-- What may be wrong with an expression. -/
inductive Fault where
  | bracket
  | group
  | closing
  | brace
  | interval
  | repetition
  | backslash
  | reference
  | range
  | className
  | collation
  | tooBig
  | pattern
  /-- The name of a class with no brackets around it. -/
  | bareClass
  deriving Repr, DecidableEq

/-- A fault in words. -/
def Fault.words : Fault → String
  | .bracket => "Unmatched [, [^, [:, [., or [="
  | .group => "Unmatched ( or \\("
  | .closing => "Unmatched ) or \\)"
  | .brace => "Unmatched \\\x7b"
  | .interval => "Invalid content of \\\x7b\\\x7d"
  | .repetition => "Invalid preceding regular expression"
  | .backslash => "Trailing backslash"
  | .reference => "Invalid back reference"
  | .range => "Invalid range end"
  | .className => "Invalid character class name"
  | .collation => "Invalid collation character"
  | .tooBig => "Regular expression too big"
  | .pattern => "Invalid regular expression"
  | .bareClass => "character class syntax is [[:space:]], not [:space:]"

/-- A way of writing expressions. -/
structure Dialect where
  extended : Bool
  /-- What letters behind a backslash stand for. -/
  letter? : Char → Option Char
  /-- Whether a backslash keeps its meaning in brackets. -/
  bracketEscapes : Bool
  /-- Whether signs that make no sense where they stand are put up with. -/
  lenient : Bool
  /-- Whether the name of a class must have brackets around it. -/
  checksClasses : Bool

/-- The dialect in which a letter behind a backslash stands for itself. -/
def Dialect.plain (extended : Bool) : Dialect := ⟨extended, fun _ => none, false, true, false⟩

/-- An expression that is being read: what is left, how many groups have been opened, and which are
complete. -/
structure Reading where
  rest : List Char
  opened : Nat
  closed : List Nat

/-- A step of reading. -/
abbrev Step := StateT Reading (Except Fault)

/-- The next sign of an expression. -/
inductive Sign where
  | literal (c : Char)
  | dot
  | opening
  | closing
  | bar
  | star
  | plus
  | question
  | brace
  | bracket
  | caret
  | dollar
  | edge (e : Edge)
  | members (negated : Bool) (name : String)
  | reference (number : Nat)
  deriving Repr, DecidableEq

/-- Read the next sign. -/
def sign? (n : Dialect) (text : List Char) : Except Fault (Option (Sign × List Char)) :=
  match text with
  | [] => .ok none
  | ['\\'] => .error .backslash
  | '\\' :: c :: rest =>
    let is (s : Sign) : Except Fault (Option (Sign × List Char)) := .ok (some (s, rest))
    match n.letter? c with
    | some c => is (.literal c)
    | none =>
      match c with
      | '(' => is (if n.extended then .literal c else .opening)
      | ')' => is (if n.extended then .literal c else .closing)
      | '|' => is (if n.extended then .literal c else .bar)
      | '+' => is (if n.extended then .literal c else .plus)
      | '?' => is (if n.extended then .literal c else .question)
      | '{' => is (if n.extended then .literal c else .brace)
      | '<' => is (.edge .wordStart)
      | '>' => is (.edge .wordEnd)
      | 'b' => is (.edge (.word true))
      | 'B' => is (.edge (.word false))
      | '\x60' => is (.edge .textStart)
      | '\'' => is (.edge .textEnd)
      | 'w' => is (.members false "word")
      | 'W' => is (.members true "word")
      | 's' => is (.members false "space")
      | 'S' => is (.members true "space")
      | c => is (if '1' ≤ c && c ≤ '9' then .reference (c.toNat - '0'.toNat) else .literal c)
  | c :: rest =>
    let is (s : Sign) : Except Fault (Option (Sign × List Char)) := .ok (some (s, rest))
    match c with
    | '.' => is .dot
    | '*' => is .star
    | '[' => is .bracket
    | '^' => is .caret
    | '$' => is .dollar
    | '(' => is (if n.extended then .opening else .literal c)
    | ')' => is (if n.extended then .closing else .literal c)
    | '|' => is (if n.extended then .bar else .literal c)
    | '+' => is (if n.extended then .plus else .literal c)
    | '?' => is (if n.extended then .question else .literal c)
    | '{' => is (if n.extended then .brace else .literal c)
    | c => is (.literal c)

/-- The expression for the characters of a class. -/
def ofClass (negated : Bool) (name : String) : Regex :=
  if name = "word" then .among negated [.named "alnum", .range '_' '_']
  else .among negated [.named name]

/-- Read a character in brackets, in one of the ways that it may be written. -/
def bracketChar (n : Dialect) (text : List Char) : Except Fault (Char × List Char) :=
  match text with
  | [] => .error .bracket
  | '[' :: '.' :: c :: '.' :: ']' :: rest => .ok (c, rest)
  | '[' :: '.' :: rest => .error (if Text.occursIn ".]".toList rest then .collation else .bracket)
  | '\\' :: c :: rest =>
    if n.bracketEscapes then .ok ((n.letter? c).getD c, rest)
    else
      match n.letter? c with
      | some d => .ok (d, rest)
      | none => .ok ('\\', c :: rest)
  | c :: rest => .ok (c, rest)

/-- Read what brackets list, up to the closing one, which stands for itself in front. Each step takes
a character, so `fuel` is the length of the text. -/
def bracketWithin (n : Dialect) : Nat → Bool → List Char → Except Fault (List Choice × List Char)
  | 0, _, _ => .error .bracket
  | fuel + 1, first, text =>
    let add (choice : Choice) (rest : List Char) : Except Fault (List Choice × List Char) := do
      let (more, rest) ← bracketWithin n fuel false rest
      .ok (choice :: more, rest)
    match text with
    | [] => .error .bracket
    | ']' :: rest => if first then single add ']' rest else .ok ([], rest)
    | '[' :: ':' :: rest =>
      let name := rest.takeWhile Char.isAlpha
      match rest.drop name.length with
      | ':' :: ']' :: rest =>
        let name := String.ofList name
        if (CharClass.ofName? name).isSome then add (.named name) rest else .error .className
      | _ => .error .bracket
    | '[' :: '=' :: c :: '=' :: ']' :: rest => add (.range c c) rest
    | '[' :: '=' :: rest => .error (if Text.occursIn "=]".toList rest then .collation else .bracket)
    | text =>
      match bracketChar n text with
      | .ok (c, rest) => single add c rest
      | .error fault => .error fault
where
  /-- A character, or the range that it starts. -/
  single (add : Choice → List Char → Except Fault (List Choice × List Char)) (low : Char)
      (rest : List Char) : Except Fault (List Choice × List Char) :=
    match rest with
    | '-' :: ']' :: _ => add (.range low low) rest
    | '-' :: after =>
      match bracketChar n after with
      | .ok (high, rest) => if high < low then .error .range else add (.range low high) rest
      | .error fault => .error fault
    | _ => add (.range low low) rest

/-- Whether a text begins with the name of a class between colons that a bracket closes. -/
def namesClass (text : List Char) : Bool :=
  match text.takeWhile (· ≠ ']') with
  | ':' :: rest => rest.getLast? = some ':' && rest.length < text.length - 1
  | _ => false

/-- Read what stands behind an opening bracket. -/
def bracket (n : Dialect) (text : List Char) : Except Fault (Regex × List Char) :=
  let (negated, listed) : Bool × List Char :=
    match text with
    | '^' :: rest => (true, rest)
    | _ => (false, text)
  if listed.isEmpty then .error .pattern
  else if n.checksClasses && namesClass text then .error .bareClass
  else do
    let (choices, rest) ← bracketWithin n (listed.length + 1) true listed
    .ok (.among negated choices, rest)

/-- The greatest bound of a repetition. -/
def repetitionLimit : Nat := 32767

/-- Read the bounds of a repetition behind its opening brace. In the extended dialect a brace without
bounds may stand for itself, so that there are none. -/
def bounds? (n : Dialect) (text : List Char) : Except Fault (Option (Nat × Option Nat × List Char)) :=
  let low := text.takeWhile Char.isDigit
  let rest := text.drop low.length
  let number (digits : List Char) : Nat := Text.Numeral.ofDigits 10 digits
  let flawed (rest : List Char) : Except Fault (Option (Nat × Option Nat × List Char)) :=
    if n.extended && n.lenient then .ok none
    else .error (if rest.isEmpty then .brace else .interval)
  let closed (least : Nat) (most : Option Nat) (rest : List Char) :
      Except Fault (Option (Nat × Option Nat × List Char)) :=
    let behind? : Option (List Char) :=
      match n.extended, rest with
      | true, '\x7d' :: rest | false, '\\' :: '\x7d' :: rest => some rest
      | _, _ => none
    match behind? with
    | none => flawed rest
    | some rest =>
      if most.any (· < least) then .error .interval
      else if repetitionLimit < most.getD least then .error .tooBig
      else .ok (some (least, most, rest))
  match rest with
  | ',' :: rest =>
    let high := rest.takeWhile Char.isDigit
    closed (number low) (if high.isEmpty then none else some (number high))
      (rest.drop high.length)
  | rest => if low.isEmpty then flawed rest else closed (number low) (some (number low)) rest

/-- Whether a dollar sign in front of a text means the end of a line. -/
def endsHere (n : Dialect) (rest : List Char) : Bool :=
  n.extended || rest.isEmpty ||
    match rest with
    | '\\' :: ')' :: _ | '\\' :: '|' :: _ => true
    | _ => false

/-- What stands in front of the next sign: nothing at all, nothing that could be repeated, or
something. -/
inductive Front where
  | empty
  | bare
  | filled
  deriving Repr, DecidableEq

mutual

/-- Read alternatives. `depth` counts the groups that are open. -/
def alternatives (n : Dialect) : Nat → Nat → Step Regex
  | 0, _ => throw .group
  | fuel + 1, depth => do
    let first ← sequence n fuel depth .empty .empty
    match ← liftM (sign? n (← get).rest) with
    | some (.bar, rest) =>
      modify fun s => { s with rest := rest }
      pure (.either first (← alternatives n fuel depth))
    | _ => pure first

/-- Read what stands one behind the other. -/
def sequence (n : Dialect) : Nat → Nat → Front → Regex → Step Regex
  | 0, _, _, before => pure before
  | fuel + 1, depth, front, before => do
    let join (r : Regex) : Regex :=
      match before with
      | .empty => r
      | before => .both before r
    let s ← get
    match ← liftM (sign? n s.rest) with
    | none => pure before
    | some (.bar, _) => pure before
    | some (.closing, rest) =>
      if depth ≠ 0 then pure before
      else if n.extended && n.lenient then
        set { s with rest := rest }
        sequence n fuel depth .filled (join (← repetitions n fuel false (.char ')')))
      else throw .closing
    | some (sign, rest) =>
      set { s with rest := rest }
      let repeated (r : Regex) : Step Regex := do
        sequence n fuel depth .filled (join (← repetitions n fuel false r))
      let place (e : Edge) : Step Regex := sequence n fuel depth .bare (join (.edge e))
      let operator (c : Char) : Step Regex :=
        if !n.extended || front = .filled then repeated (.char c)
        else if n.lenient then sequence n fuel depth front before
        else throw .repetition
      match sign with
      | .literal c => repeated (.char c)
      | .dot => repeated .any
      | .bracket =>
        let (r, rest) ← liftM (bracket n rest)
        set { s with rest := rest }
        repeated r
      | .caret =>
        if n.extended || front = .empty then place .lineStart else repeated (.char '^')
      | .dollar => if endsHere n rest then place .lineEnd else repeated (.char '$')
      | .edge e => place e
      | .members negated name => repeated (ofClass negated name)
      | .reference number =>
        if s.closed.contains number then repeated (.again number) else throw .reference
      | .opening =>
        let number := s.opened + 1
        modify fun s => { s with opened := number }
        let body ← alternatives n fuel (depth + 1)
        match ← liftM (sign? n (← get).rest) with
        | some (.closing, rest) =>
          modify fun s => { s with rest := rest, closed := number :: s.closed }
          repeated (.group number body)
        | _ => throw .group
      | .star => operator '*'
      | .plus => operator '+'
      | .question => operator '?'
      | .brace =>
        if n.lenient then
          match n.extended, ← liftM (bounds? n rest) with
          | true, some (_, _, rest) =>
            set { s with rest := rest }
            sequence n fuel depth front before
          | _, _ => repeated (.char '\x7b')
        else throw .repetition
      | .bar | .closing => pure before

/-- Read the repetitions of an expression. `again` says that there has been one. -/
def repetitions (n : Dialect) : Nat → Bool → Regex → Step Regex
  | 0, _, r => pure r
  | fuel + 1, twice, r => do
    let s ← get
    let again (least : Nat) (most : Option Nat) (rest : List Char) : Step Regex := do
      set { s with rest := rest }
      repetitions n fuel true (.repeated r least most)
    let refused := twice && !n.extended && !n.lenient
    match sign? n s.rest with
    | .ok (some (.star, rest)) => if refused then throw .repetition else again 0 none rest
    | .ok (some (.plus, rest)) => again 1 none rest
    | .ok (some (.question, rest)) => again 0 (some 1) rest
    | .ok (some (.brace, rest)) =>
      if refused then throw .repetition
      else
        match ← liftM (bounds? n rest) with
        | some (least, most, rest) => again least most rest
        | none => pure r
    | _ => pure r

end

/-- Read an expression: with how many groups it has. -/
def read (n : Dialect) (text : String) : Except Fault (Regex × Nat) := do
  let (r, s) ← (alternatives n (8 * text.length + 8) 0).run ⟨text.toList, 0, []⟩
  .ok (r, s.opened)

/-- The expression that stands for just one text. -/
def literal (text : String) : Regex :=
  text.toList.foldr (fun c rest =>
    match rest with
    | .empty => .char c
    | rest => .both (.char c) rest) .empty

end CSharpBuild.Machine.Regex
