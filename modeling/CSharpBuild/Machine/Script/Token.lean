/-
Tokens of scripts, the text they are read from and what may be wrong with it.

A `Source` is a text that is being read: what is left of it, the line it has come to, a token that
was looked at and put back, and the documents that stand between the lines. Readers of scripts are
functions on it that deliver a value or stop at a flaw.
-/
import CSharpBuild.Machine.Script

namespace CSharpBuild.Machine.Script

/-- The signs that introduce a redirection. -/
inductive RedirectionSign where
  | to (direction : Direction)
  /-- A document follows, perhaps with tabs in front of its lines. -/
  | document (stripped : Bool)
  deriving Repr, DecidableEq

/-- A token. -/
inductive Token where
  | ending
  | newline
  | redirection (stream : Nat) (sign : RedirectionSign)
  | word (pieces : Word)
  | sign (text : String)
  | keyword (text : String)

namespace Token

/-- What a token is called. -/
def name : Token → String
  | .ending => "end of file"
  | .newline => "newline"
  | .redirection .. => "redirection"
  | .word _ => "word"
  | .sign text | .keyword text => "\"" ++ text ++ "\""

/-- The words that are no words where a command may start. -/
def keywords : List String :=
  ["!", "case", "do", "done", "elif", "else", "esac", "fi", "for", "if", "in", "then", "until",
    "while", "\x7b", "\x7d"]

/-- The words that end a list of commands. -/
def closers : List String := ["do", "done", "elif", "else", "esac", "fi", "then", "\x7d"]

/-- Whether a list of commands ends before a token. -/
def endsList : Token → Bool
  | .ending => true
  | .sign text => text = ")" || text = ";;"
  | .keyword text => closers.contains text
  | .newline | .redirection .. | .word _ => false

/-- Whether a token is a given sign. -/
def isSign (text : String) : Token → Bool
  | .sign other => other = text
  | _ => false

/-- Whether a token is a given keyword. -/
def isKeyword (text : String) : Token → Bool
  | .keyword other => other = text
  | _ => false

end Token

/-- What may be wrong with a script. -/
inductive Fault where
  | unexpected (found : String) (expected : Option String)
  | openQuote
  | openBackquote
  | openBrace
  | openExpression
  | badLoopVariable
  | badFunctionName
  deriving Repr, DecidableEq

/-- A fault in words. -/
def Fault.words : Fault → String
  | .unexpected found none => found ++ " unexpected"
  | .unexpected found (some expected) => found ++ " unexpected (expecting " ++ expected ++ ")"
  | .openQuote => "Unterminated quoted string"
  | .openBackquote => "EOF in backquote substitution"
  | .openBrace => "Missing '\x7d'"
  | .openExpression => "Missing '))'"
  | .badLoopVariable => "Bad for loop variable"
  | .badFunctionName => "Bad function name"

/-- A fault and the line in which it was found. -/
structure Flaw where
  line : Nat
  fault : Fault
  deriving Repr, DecidableEq

/-- A document that the script has announced: it ends before a line of its own. -/
structure Announcement where
  number : Nat
  delimiter : String
  stripped : Bool
  /-- Whether the document is taken as it stands. -/
  quoted : Bool
  deriving Repr, DecidableEq

/-- A script that is being read. -/
structure Source where
  rest : List Char
  line : Nat
  /-- A token that was put back. -/
  pushed : Option Token
  /-- Documents that have been announced but not reached. -/
  due : List Announcement
  documents : Array Word
  aliases : List (String × String)
  /-- Aliases that are being replaced, each with how much text is left behind it. -/
  active : List (String × Nat)

/-- A text from its first line on. -/
def Source.ofText (text : String) (documents : Array Word) (aliases : List (String × String)) :
    Source :=
  ⟨text.toList, 1, none, [], documents, aliases, []⟩

/-- A reader of scripts. -/
abbrev Reading (α : Type) := StateT Source (Except Flaw) α

namespace Reading

/-- Stop at a fault. -/
def fail {α : Type} (fault : Fault) : Reading α := do throw ⟨(← get).line, fault⟩

/-- Stop at a token that does not belong here. -/
def unexpected {α : Type} (found : Token) (expected : Option Token) : Reading α :=
  fail (.unexpected found.name (expected.map Token.name))

/-- Put a token back. -/
def putBack (token : Token) : Reading Unit := modify fun s => { s with pushed := some token }

/-- Take the next character as it stands. -/
def takeRaw : Reading (Option Char) := do
  let s ← get
  match s.rest with
  | [] => pure none
  | c :: rest =>
    set { s with rest := rest, line := if c = '\n' then s.line + 1 else s.line }
    pure (some c)

/-- Join the lines that a backslash at the end of one joins. -/
def joinLines (s : Source) : Source :=
  let (rest, line) := go s.rest s.line
  { s with rest := rest, line := line }
where
  /-- The text behind joined line ends, and the line it stands in. -/
  go : List Char → Nat → List Char × Nat
    | '\\' :: '\n' :: rest, line => go rest (line + 1)
    | text, line => (text, line)

/-- The next character, over joined lines. It stays where it is. -/
def peek : Reading (Option Char) := do
  modify joinLines
  pure (← get).rest.head?

/-- Take the next character, over joined lines. -/
def take : Reading (Option Char) := do
  modify joinLines
  takeRaw

/-- Take a given character if it comes next. -/
def taken? (c : Char) : Reading Bool := do
  if (← peek) = some c then
    let _ ← take
    pure true
  else pure false

/-- Take characters that satisfy `p`, as far as they go. -/
def takeWhile (p : Char → Bool) : Reading (List Char) := do
  let rec go : Nat → List Char → Reading (List Char)
    | 0, taken => pure taken.reverse
    | fuel + 1, taken => do
      match ← peek with
      | some c =>
        if p c then
          let _ ← take
          go fuel (c :: taken)
        else pure taken.reverse
      | none => pure taken.reverse
  go ((← get).rest.length + 1) []

/-- Pass over blanks and a comment. -/
def skipBlanks : Reading Unit := do
  let _ ← takeWhile fun c => c = ' ' || c = '\t'
  if (← peek) = some '#' then
    modify fun s => { s with rest := s.rest.dropWhile (· ≠ '\n') }

end Reading

/-- Whether a character ends a word that is not quoted. -/
def isDelimiter (c : Char) : Bool := [' ', '\t', '\n', ';', '&', '|', '<', '>', '(', ')'].contains c

/-- Whether a character may start a name. -/
def startsName (c : Char) : Bool := c.isAlpha || c = '_'

/-- Whether a character may stand in a name. -/
def inName (c : Char) : Bool := c.isAlphanum || c = '_'

/-- Whether a text is a name. -/
def isName (text : String) : Bool :=
  match text.toList with
  | first :: rest => startsName first && rest.all inName
  | [] => false

/-- Whether a character is the name of a parameter on its own. -/
def isSpecial (c : Char) : Bool := c.isDigit || ['@', '*', '#', '?', '$', '!', '-'].contains c

/-- The commands that are part of the language of scripts. They are found before functions, and an
error in one of them ends the shell. -/
def specialCommands : List String :=
  ["break", ":", ".", "continue", "eval", "exec", "exit", "export", "local", "readonly", "return",
    "set", "shift", "times", "trap", "unset"]

end CSharpBuild.Machine.Script
