/-
Tokens of programs that take records apart. What a sign means depends on what has been read before
it: a slash begins an expression only where no operand stands in front of it, a greater-than sign
behind `print` leads to a file unless it is in parentheses, and a name directly in front of an
opening parenthesis is one of a function.
-/
import CSharpBuild.Machine.Launching.Awk.Pattern
import CSharpBuild.Text.Double

namespace CSharpBuild.Machine.Launching.Awk

open Text

/-- A token. -/
inductive Token where
  | finish
  | newline
  /-- A semicolon, written or understood in front of a closing brace. -/
  | semicolon (isWritten : Bool)
  | number (value : Float) (spelling : String)
  | text (text : String)
  | pattern (text : String)
  | name (name : String)
  /-- A name behind a dollar sign. -/
  | fieldName (name : String)
  | functionName (name : String)
  | builtin (function : Builtin) (name : String)
  /-- The length of something, without parentheses. -/
  | length
  /-- A dollar sign and a number. -/
  | field (number : Nat)
  | keyword (word : String)
  | sign (sign : String)
  | step (up : Bool)
  | matching (expected : Bool)
  /-- Where output goes. -/
  | output (direction : Direction)
  /-- Where input comes from. -/
  | input
  | unexpected (c : Char)
  deriving Inhabited

/-- What a name has turned out to be. -/
inductive Kind where
  | scalar
  | array
  | function
  deriving Repr, DecidableEq

/-- An argument of a call: a name of which it is not known what it is, or something that is known. -/
inductive Argument where
  | unknown (name : String) (scope : Option String)
  | known (kind : Kind)
  deriving Repr, DecidableEq

/-- A call of a function, to be checked when all functions are known. -/
structure Call where
  function : String
  arguments : List Argument
  place : String

/-- A function that has been read: its parameters with what they have turned out to be, and its body.
-/
structure Definition where
  name : String
  parameters : List (String × Option Kind)
  body : Statement

/-- The part of a program that is being read. -/
inductive Stage where
  | first
  | main
  | last
  | function
  deriving Repr, DecidableEq

/-- What is being read: the text that is left, and what it may depend on. -/
structure Reading where
  rest : List Char
  /-- What the messages begin with. -/
  title : String
  line : Nat
  /-- The line on which the last token begins. -/
  tokenLine : Nat
  last : Token
  /-- Whether the last token has been looked at only. -/
  isAhead : Bool
  parentheses : Nat
  braces : Nat
  afterPrint : Bool
  afterGetline : Bool
  names : Std.HashMap String Kind
  /-- The function that is being read, with its parameters and what they have turned out to be. -/
  scope : Option String
  parameters : List (String × Option Kind)
  calls : List Call
  functions : List Definition
  stage : Stage
  /-- How many loops are open. -/
  loops : Nat
  /-- How many tokens have to be taken before a fault is told again. -/
  silence : Nat
  /-- What was wrong, the last first. -/
  faults : List String

/-- Why reading stops: a fault to recover from, or one that ends it. -/
inductive Stop where
  | fault
  | quit
  deriving Repr, DecidableEq

/-- A step of reading. -/
abbrev Step := ExceptT Stop (StateM Reading)

namespace Token

/-- The words that mean something. -/
def keywords : List String :=
  ["BEGIN", "END", "break", "continue", "delete", "do", "else", "exit", "for", "function", "getline",
    "gsub", "if", "in", "match", "next", "nextfile", "print", "printf", "return", "split", "sub",
    "while"]

/-- The functions that are always there. -/
def builtins : List (String × Builtin) :=
  [("length", .length), ("substr", .substring), ("index", .index), ("tolower", .lower),
    ("toupper", .upper), ("sprintf", .format), ("int", .integer), ("sqrt", .root),
    ("exp", .exponential), ("log", .logarithm), ("sin", .sine), ("cos", .cosine),
    ("atan2", .arcTangent), ("rand", .random), ("srand", .seed), ("close", .close),
    ("fflush", .flush), ("system", .system), ("systime", .time)]

/-- How a token is told in a message; none for those that have a message of their own. -/
def words? : Token → Option String
  | finish => some "end of file"
  | newline => some "end of line"
  | semicolon isWritten => some (if isWritten then ";" else "\x7d")
  | number _ spelling => some spelling
  | text t => some t
  | pattern t => some ("/" ++ t ++ "/")
  | name n | fieldName n | functionName n | builtin _ n => some n
  | length => some "length"
  | field _ => some "$"
  | keyword word => some word
  | sign s => some s
  | step up => some (if up then "++" else "--")
  | matching expected => some (if expected then "~" else "!~")
  | output .file => some ">"
  | output .append => some ">>"
  | output .command => some "|"
  | input => some "<"
  | unexpected _ => none

/-- Whether a token is a sign. -/
def isSign (t : Token) (s : String) : Bool :=
  match t with
  | sign t => t = s
  | _ => false

/-- Whether a token is a word. -/
def isKeyword (t : Token) (word : String) : Bool :=
  match t with
  | keyword w => w = word
  | _ => false

/-- Whether an operand may end with a token, so that a slash behind it divides. -/
def endsOperand : Token → Bool
  | number .. | text _ | pattern _ | name _ | fieldName _ | field _ => true
  | sign s => s = ")" || s = "]"
  | keyword word => word = "getline"
  | _ => false

end Token

namespace Reading

/-- Whether a character is a blank within a line. -/
def isBlank (c : Char) : Bool := c = ' ' || c = '\t' || c = '\x0b' || c = '\x0c' || c = '\r'

/-- Whether a name may begin with a character. -/
def isNameStart (c : Char) : Bool := c.isAlpha || c = '_'

/-- Whether a name may go on with a character. -/
def isNameChar (c : Char) : Bool := isNameStart c || c.isDigit

/-- The most faults that are told. -/
def faultLimit : Nat := 5

/-- Where the last token is. -/
def place (r : Reading) : String := r.title ++ "line " ++ toString r.tokenLine ++ ": "

end Reading

open Reading

/-- Tell a fault. -/
def tell (text : String) : Step Unit := do
  modify fun r => { r with faults := text :: r.faults }
  if faultLimit ≤ (← get).faults.length then throw .quit

/-- Tell a fault with the place of it. -/
def complain (text : String) : Step Unit := do tell ((← get).place ++ text)

/-- Take characters. -/
def drop (count : Nat) : Step Unit := modify fun r => { r with rest := r.rest.drop count }

/-- Skip blanks. -/
def skipBlanks : Step Unit := modify fun r => { r with rest := r.rest.dropWhile Reading.isBlank }

/-- Skip blanks, comments and ends of lines. Each step takes a character, which bounds `fuel`. -/
def skipLinesWithin : Nat → Step Unit
  | 0 => pure ()
  | fuel + 1 => do
    let r ← get
    match r.rest with
    | '#' :: rest =>
      set { r with rest := rest.dropWhile (· ≠ '\n') }
      skipLinesWithin fuel
    | '\n' :: rest =>
      set { r with rest := rest, line := r.line + 1 }
      skipLinesWithin fuel
    | '\\' :: rest =>
      match rest.dropWhile Reading.isBlank with
      | '\n' :: rest =>
        set { r with rest := rest, line := r.line + 1, tokenLine := r.line + 1 }
        skipLinesWithin fuel
      | rest =>
        set { r with rest := rest }
        tell (toString r.tokenLine ++ ": unexpected character '\\'")
    | c :: rest =>
      if Reading.isBlank c then
        set { r with rest := rest }
        skipLinesWithin fuel
      else pure ()
    | [] => pure ()

/-- Skip blanks, comments and ends of lines. -/
def skipLines : Step Unit := do skipLinesWithin ((← get).rest.length + 1)

/-- A number at the front of a text: its characters, and what is left. -/
def spelledNumber (text : List Char) : List Char × List Char :=
  let whole := text.takeWhile Char.isDigit
  let rest := text.drop whole.length
  let (mantissa, rest) : List Char × List Char :=
    match rest with
    | '.' :: rest =>
      let part := rest.takeWhile Char.isDigit
      (whole ++ '.' :: part, rest.drop part.length)
    | rest => (whole, rest)
  match rest with
  | e :: sign :: more =>
    if e = 'e' || e = 'E' then
      if sign.isDigit then
        let digits := (sign :: more).takeWhile Char.isDigit
        (mantissa ++ e :: digits, (sign :: more).drop digits.length)
      else if sign = '-' || sign = '+' then
        let digits := more.takeWhile Char.isDigit
        (mantissa ++ e :: sign :: digits, more.drop digits.length)
      else (mantissa, rest)
    else (mantissa, rest)
  | _ => (mantissa, rest)

/-- Read a number. -/
def number : Step Token := do
  let r ← get
  let (spelling, rest) := spelledNumber r.rest
  let written := String.ofList spelling
  match Double.read? false spelling with
  | some read =>
    set { r with rest := rest }
    if read.outOfRange then complain (written ++ " : decimal overflow")
    pure (.number read.value.toFloat written)
  | none =>
    set { r with rest := r.rest.drop 1 }
    pure (.unexpected '.')

/-- The characters of a text up to its quote, and what is left; none if the line ends before. -/
def quotedText? : Nat → List Char → Option (List Char × List Char) × List Char
  | 0, _ => (none, [])
  | _ + 1, [] => (none, [])
  | _ + 1, '"' :: rest => (some ([], rest), [])
  | _ + 1, '\n' :: _ => (none, [])
  | fuel + 1, '\\' :: '\n' :: rest => quotedText? fuel rest
  | fuel + 1, '\\' :: c :: rest =>
    match quotedText? fuel rest with
    | (some (text, rest), _) => (some ('\\' :: c :: text, rest), [])
    | (none, seen) => (none, '\\' :: c :: seen)
  | fuel + 1, c :: rest =>
    match quotedText? fuel rest with
    | (some (text, rest), _) => (some (c :: text, rest), [])
    | (none, seen) => (none, c :: seen)

/-- Where the reading of an expression between slashes is: outside of brackets, at the front of them
or within. -/
inductive Box where
  | outside
  | front
  | inside
  deriving Repr, DecidableEq

/-- The characters of an expression up to its slash, and what is left; none if the line ends before.
Each step takes a character, which bounds `fuel`. -/
def slashedText? : Nat → Box → List Char → Option (List Char × List Char) × List Char
  | 0, _, _ => (none, [])
  | _ + 1, _, [] => (none, [])
  | _ + 1, _, '\n' :: _ => (none, [])
  | _ + 1, .outside, '/' :: rest => (some ([], rest), [])
  | fuel + 1, box, '\\' :: '\n' :: rest => slashedText? fuel box rest
  | fuel + 1, box, '\\' :: c :: rest =>
    let taken := if c = '/' then ['/'] else ['\\', c]
    match slashedText? fuel (if box = .front then .inside else box) rest with
    | (some (text, rest), _) => (some (taken ++ text, rest), [])
    | (none, seen) => (none, taken ++ seen)
  | fuel + 1, box, c :: rest =>
    let named := if box = .outside || c ≠ '[' || rest.head? ≠ some ':' then []
      else
        let name := (rest.drop 1).takeWhile Char.isAlpha
        if (rest.drop (name.length + 1)).take 2 = [':', ']'] then ':' :: name ++ [':', ']'] else []
    let after : Box :=
      match box, c with
      | .outside, '[' => .front
      | .outside, _ => .outside
      | .front, '^' => .front
      | .front, _ => .inside
      | .inside, ']' => .outside
      | .inside, _ => .inside
    match slashedText? fuel after (rest.drop named.length) with
    | (some (text, rest), _) => (some (c :: named ++ text, rest), [])
    | (none, seen) => (none, c :: named ++ seen)

/-- The text behind a quotation mark. -/
def quotedText : Step Token := do
  let r ← get
  match quotedText? (r.rest.length + 1) r.rest with
  | (some (text, rest), _) =>
    let lines := (r.rest.take (r.rest.length - rest.length)).count '\n'
    set { r with rest := rest, line := r.line + lines }
    pure (.text (String.ofList (Pattern.unescaped text)))
  | (none, seen) =>
    complain ("runaway string constant \"" ++ String.ofList (seen.take 10) ++ " ...")
    throw .quit

/-- The expression behind a slash. -/
def slashedText : Step Token := do
  let r ← get
  match slashedText? (r.rest.length + 1) .outside r.rest with
  | (some (text, rest), _) =>
    set { r with rest := rest }
    pure (.pattern (String.ofList text))
  | (none, seen) =>
    complain ("runaway regular expression /" ++ String.ofList (seen.take 10) ++ " ...")
    throw .quit

/-- What a word is, which the text behind it may decide. -/
def wordToken (word : String) : Step Token := do
  let r ← get
  let isCalled := r.rest.head? = some '('
  if Token.keywords.contains word then pure (.keyword word)
  else if word = "length" then
    let r := { r with rest := r.rest.dropWhile Reading.isBlank }
    set r
    pure (if r.rest.head? = some '(' then .builtin .length word else .length)
  else
    match Token.builtins.lookup word with
    | some function => pure (.builtin function word)
    | none =>
      let named : Token := if r.last.isSign "$" then .fieldName word else .name word
      if (r.parameters.lookup word).isSome then pure named
      else
        match r.names[word]? with
        | some .function => pure (.functionName word)
        | some _ => pure named
        | none =>
          if isCalled then
            set { r with names := r.names.insert word .function }
            pure (.functionName word)
          else pure named

/-- A token of one character or of two, of which the second is an equals sign. -/
def orAssigned (rest : List Char) (sign : String) : Step Token := do
  match rest with
  | '=' :: rest =>
    modify fun r => { r with rest := rest }
    pure (.sign (sign ++ "="))
  | rest =>
    modify fun r => { r with rest := rest }
    pure (.sign sign)

/-- Read the token that begins with a character, with the text behind it. -/
def tokenFrom (c : Char) (rest : List Char) : Step (Option Token) := do
  let r ← get
  let plain (count : Nat) (t : Token) : Step (Option Token) := do
    set { r with rest := rest.drop count }
    pure (some t)
  let broken (t : Token) : Step (Option Token) := do
    set { r with rest := rest.drop 1 }
    skipLines
    pure (some t)
  let next := rest.head?
  match c with
  | '\n' =>
    set { r with rest := rest, line := r.line + 1 }
    skipLines
    pure (some .newline)
  | ';' | ',' =>
    set { r with rest := rest }
    skipLines
    pure (some (if c = ';' then .semicolon true else .sign ","))
  | '\x7b' =>
    set { r with rest := rest, braces := r.braces + 1 }
    skipLines
    pure (some (.sign "\x7b"))
  | '+' =>
    if next = some '+' then plain 1 (.step true) else some <$> orAssigned rest "+"
  | '-' =>
    if next = some '-' then plain 1 (.step false) else some <$> orAssigned rest "-"
  | '*' => some <$> orAssigned rest "*"
  | '/' =>
    if r.last.endsOperand then some <$> orAssigned rest "/"
    else if r.last matches .step _ && next ≠ some '=' then plain 0 (.sign "/")
    else
      set { r with rest := rest }
      some <$> slashedText
  | '%' => some <$> orAssigned rest "%"
  | '^' => some <$> orAssigned rest "^"
  | '=' => some <$> orAssigned rest "="
  | '(' =>
    set { r with rest := rest, parentheses := r.parentheses + 1 }
    pure (some (.sign "("))
  | ')' =>
    set { r with rest := rest, parentheses := r.parentheses - 1 }
    if r.parentheses = 0 then
      complain "extra ')'"
      pure none
    else pure (some (.sign ")"))
  | '[' => plain 0 (.sign "[")
  | ']' => plain 0 (.sign "]")
  | '~' => plain 0 (.matching true)
  | '!' =>
    if next = some '~' then plain 1 (.matching false)
    else if next = some '=' then plain 1 (.sign "!=")
    else plain 0 (.sign "!")
  | '<' =>
    if next = some '=' then plain 1 (.sign "<=")
    else if r.afterGetline then
      set { r with rest := rest, afterGetline := false }
      pure (some .input)
    else plain 0 (.sign "<")
  | '>' =>
    if r.afterPrint && r.parentheses = 0 then
      let appends := next = some '>'
      set { r with rest := if appends then rest.drop 1 else rest, afterPrint := false }
      pure (some (.output (if appends then .append else .file)))
    else some <$> orAssigned rest ">"
  | '|' =>
    if next = some '|' then broken (.sign "||")
    else if r.afterPrint && r.parentheses = 0 then
      set { r with rest := rest, afterPrint := false }
      pure (some (.output .command))
    else plain 0 (.sign "|")
  | '&' => if next = some '&' then broken (.sign "&&") else plain 0 (.unexpected '&')
  | '?' => plain 0 (.sign "?")
  | ':' => plain 0 (.sign ":")
  | '\x7d' =>
    if r.braces = 0 then
      set { r with rest := rest }
      complain "extra '\x7d'"
      skipBlanks
      modify fun r => { r with rest := if r.rest.head? = some ';' then r.rest.drop 1 else r.rest }
      pure none
    else if r.last matches .newline | .semicolon _ || r.last.isSign "\x7d" then
      let r := { r with rest := rest, braces := r.braces - 1 }
      set r
      if r.braces = 0 then
        skipBlanks
        modify fun r => { r with rest := if r.rest.head? = some ';' then r.rest.drop 1 else r.rest }
      skipLines
      pure (some (.sign "\x7d"))
    else pure (some (.semicolon false))
  | '"' =>
    set { r with rest := rest }
    some <$> quotedText
  | '$' =>
    let rest := rest.dropWhile Reading.isBlank
    set { r with rest := rest }
    if rest.head?.any fun c => c.isDigit || c = '.' then
      match ← number with
      | .number value spelling =>
        if value.floor != value then complain ("$" ++ spelling ++ " is invalid field index")
        pure (some (.field value.toUInt64.toNat))
      | t => pure (some t)
    else pure (some (.sign "$"))
  | '\\' =>
    match rest.dropWhile Reading.isBlank with
    | '\n' :: rest =>
      set { r with rest := rest, line := r.line + 1, tokenLine := r.line + 1 }
      pure none
    | rest =>
      set { r with rest := rest }
      pure (some (.unexpected '\\'))
  | c =>
    if c.isDigit || c = '.' then some <$> number
    else if isNameStart c then
      let word := r.rest.takeWhile isNameChar
      drop word.length
      some <$> wordToken (String.ofList word)
    else plain 0 (.unexpected c)

/-- Read a token. Each step takes a character, which bounds `fuel`. -/
def tokenWithin : Nat → Step Token
  | 0 => pure .finish
  | fuel + 1 => do
    let r ← get
    match r.rest with
    | [] => pure .finish
    | '#' :: rest =>
      set { r with rest := rest.dropWhile (· ≠ '\n') }
      tokenWithin fuel
    | c :: rest =>
      if Reading.isBlank c then
        set { r with rest := rest }
        tokenWithin fuel
      else
        match ← tokenFrom c rest with
        | some t => pure t
        | none => tokenWithin fuel

/-- Look at the next token. -/
def peek : Step Token := do
  let r ← get
  if r.isAhead then pure r.last
  else
    set { r with tokenLine := r.line }
    let t ← tokenWithin (r.rest.length + 1)
    modify fun r => { r with last := t, isAhead := true }
    pure t

/-- Take the next token. -/
def take : Step Token := do
  let t ← peek
  modify fun r => { r with isAhead := false, silence := r.silence - 1 }
  pure t

end CSharpBuild.Machine.Launching.Awk
