/-
Readers: functions that take characters off the front of a text and deliver a value, or fail and
take nothing. Alternatives are tried with `<|>`.

`Reader.collect` is the only loop. It counts down the characters that are left when it starts, which
never stops it early as long as each step but the last takes at least one of them.
-/
namespace CSharpBuild.Text

/-- A reader of values of type `α`. -/
abbrev Reader (α : Type) := StateT (List Char) Option α

namespace Reader

/-- Refuse the text. -/
def refuse {α : Type} : Reader α := fun _ => none

/-- Go on only if a condition holds. -/
def require (condition : Bool) : Reader Unit :=
  if condition then pure () else refuse

/-- Take a value out of an option, or refuse. -/
def expect {α : Type} : Option α → Reader α
  | some value => pure value
  | none => refuse

/-- The next character, which stays where it is. -/
def peek? : Reader (Option Char) := fun text => some (text.head?, text)

/-- Take the next character. -/
def take : Reader Char
  | [] => none
  | c :: rest => some (c, rest)

/-- Take the next character, which must satisfy `p`. -/
def takeIf (p : Char → Bool) : Reader Char := do
  let c ← take
  require (p c)
  pure c

/-- Take one given character. -/
def char (c : Char) : Reader Unit := do
  let _ ← takeIf (· = c)

/-- Take given characters. -/
def literal (text : String) : Reader Unit := text.toList.forM char

/-- Take the characters that satisfy `p`, as far as they go. -/
def takeWhile (p : Char → Bool) : Reader (List Char) := fun text =>
  some (text.takeWhile p, text.dropWhile p)

/-- Take the characters that satisfy `p`, at least one. -/
def takeWhile1 (p : Char → Bool) : Reader (List Char) := do
  let taken ← takeWhile p
  require !taken.isEmpty
  pure taken

/-- Take `count` characters that satisfy `p`. -/
def takeN (p : Char → Bool) : Nat → Reader (List Char)
  | 0 => pure []
  | count + 1 => do
    let c ← takeIf p
    let rest ← takeN p count
    pure (c :: rest)

/-- Whether given characters come next; if so they are taken. -/
def taken? (text : String) : Reader Bool :=
  (do literal text; pure true) <|> pure false

/-- Succeed only at the end of the text. -/
def atEnd : Reader Unit := fun text => if text.isEmpty then some ((), text) else none

/-- What `r` reads, or nothing if it refuses. -/
def optional {α : Type} (r : Reader α) : Reader (Option α) :=
  (some <$> r) <|> pure none

/-- Repeat a step until it delivers nothing, at most `fuel` times. -/
def collectWithin {α : Type} (step : Reader (Option α)) : Nat → Reader (List α)
  | 0 => refuse
  | fuel + 1 => do
    match ← step with
    | none => pure []
    | some value =>
      let rest ← collectWithin step fuel
      pure (value :: rest)

/-- Repeat a step until it delivers nothing. -/
def collect {α : Type} (step : Reader (Option α)) : Reader (List α) := fun text =>
  collectWithin step (text.length + 1) text

/-- Read a whole text. -/
def readAll {α : Type} (r : Reader α) (text : String) : Option α :=
  ((do let value ← r; atEnd; pure value : Reader α).run text.toList).map Prod.fst

end Reader

end CSharpBuild.Text
