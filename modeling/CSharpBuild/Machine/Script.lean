/-
Scripts of the shell: words, redirections and commands, as they are once a script has been read. A
word is a list of pieces, each quoted or not; a quoted piece may be empty, which makes a word of
what would otherwise be none.
-/
namespace CSharpBuild.Machine

/-- What becomes of a parameter that lacks a value, or that has one. -/
inductive Substitute where
  /-- Take the operand for a value that is lacking. -/
  | fallback
  /-- The same, and set the parameter to it. -/
  | assign
  /-- Complain with the operand of a value that is lacking. -/
  | demand
  /-- Take the operand in place of a value. -/
  | instead
  deriving Repr, DecidableEq

/-- What a redirection does with the stream. -/
inductive Direction where
  | input
  | output
  /-- As `output`, also over a file that is to be spared. -/
  | force
  | append
  | both
  /-- Make the stream the same as the one that the word names. -/
  | duplicate
  deriving Repr, DecidableEq

mutual

/-- A piece of a word. -/
inductive Piece where
  | text (quoted : Bool) (text : String)
  | parameter (quoted : Bool) (name : String) (change : Change)
  /-- What a script writes. -/
  | output (quoted : Bool) (body : Script)
  /-- The value of an expression. -/
  | number (quoted : Bool) (expression : List Piece)

/-- What is done to the value of a parameter. -/
inductive Change where
  | none
  /-- Take the length. -/
  | length
  /-- Take the operand for a value that is lacking or not; `orEmpty` says that an empty value counts
  as none. -/
  | substitute (how : Substitute) (orEmpty : Bool) (operand : List Piece)
  /-- Take off what matches the operand, at the front or at the end, as much or as little as can be.
  -/
  | trim (front long : Bool) (operand : List Piece)
  /-- Nothing that can be done. -/
  | unknown

/-- A redirection of one stream. -/
inductive Redirection where
  | file (stream : Nat) (direction : Direction) (target : List Piece)
  /-- Read a document that stands in the script, known by its number. -/
  | document (stream : Nat) (number : Nat)

/-- A script, or a part of one. -/
inductive Script where
  | nothing
  /-- Assignments, words and redirections on a line. -/
  | simple (line : Nat) (assignments : List (String × List Piece)) (words : List (List Piece))
      (redirections : List Redirection)
  | redirected (line : Nat) (body : Script) (redirections : List Redirection)
  | subshell (line : Nat) (body : Script) (redirections : List Redirection)
  /-- Run a script beside what follows. -/
  | background (body : Script)
  | sequence (first second : Script)
  | both (first second : Script)
  | either (first second : Script)
  | negated (body : Script)
  | pipeline (stages : List Script)
  | choose (condition yes no : Script)
  /-- Repeat the body as long as the condition succeeds, or fails. -/
  | repeated (succeeds : Bool) (condition body : Script)
  /-- Repeat the body for each item. -/
  | each (line : Nat) (name : String) (items : List (List Piece)) (body : Script)
  /-- The first arm with a pattern that the subject matches. -/
  | select (line : Nat) (subject : List Piece) (arms : List (List (List Piece) × Script))
  /-- Give a body a name. -/
  | define (name : String) (body : Script)

end

instance : Inhabited Script := ⟨.nothing⟩

/-- A word of a script. -/
abbrev Word := List Piece

/-- The text of a word that is nothing but unquoted text. -/
def Word.bare? : Word → Option String
  | [.text false text] => some text
  | _ => none

end CSharpBuild.Machine
