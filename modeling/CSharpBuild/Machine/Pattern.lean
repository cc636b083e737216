/-
Patterns of the shell: `*` stands for any text, `?` for any octet, and a choice in brackets for one
of some octets. A quoted character stands for itself only, and so does one behind a backslash.
`Pattern.covers` says whether a pattern stands for a whole text.
-/
import CSharpBuild.Machine.CharClass

namespace CSharpBuild.Machine

/-- A character that may be quoted. -/
structure Mark where
  char : Char
  quoted : Bool
  deriving Repr, DecidableEq

/-- A text, all of it quoted or none. -/
def Mark.ofText (quoted : Bool) (text : String) : List Mark := text.toList.map fun c => ⟨c, quoted⟩

/-- The text of some marks. -/
def Mark.text (marks : List Mark) : String := String.ofList (marks.map Mark.char)

/-- What a choice in brackets lists. -/
inductive Choice where
  | range (low high : Char)
  | named (name : String)
  deriving Repr, DecidableEq

/-- Whether a character is among what is listed. -/
def Choice.holds (c : Char) : Choice → Bool
  | .range low high => low ≤ c && c ≤ high
  | .named name => (CharClass.ofName? name).any fun p => p c

/-- A part of a pattern. -/
inductive Glob where
  | any
  | one
  | exactly (c : Char)
  | among (negated : Bool) (choices : List Choice)
  deriving Repr, DecidableEq

/-- A pattern. -/
abbrev Pattern := List Glob

namespace Pattern

/-- Read a character that a backslash may quote. -/
def plainChar? : List Mark → Option (Char × List Mark)
  | ⟨'\\', false⟩ :: mark :: rest => some (mark.char, rest)
  | mark :: rest => some (mark.char, rest)
  | [] => none

/-- Read the name of a class behind its opening bracket. -/
def className? (marks : List Mark) : Option (String × List Mark) :=
  match marks with
  | ⟨':', false⟩ :: rest =>
    let name := Mark.text (rest.takeWhile fun m => m.char.isAlpha)
    match rest.dropWhile fun m => m.char.isAlpha with
    | ⟨':', false⟩ :: ⟨']', false⟩ :: rest =>
      if (CharClass.ofName? name).isSome then some (name, rest) else none
    | _ => none
  | _ => none

/-- Read what a choice lists up to its closing bracket, which stands for itself in front. Each step
takes a character, so `fuel` is the length of the text. -/
def choices? : Nat → Bool → List Mark → Option (List Choice × List Mark)
  | 0, _, _ => none
  | fuel + 1, first, marks =>
    let go (choice : Choice) (rest : List Mark) : Option (List Choice × List Mark) :=
      (choices? fuel false rest).map fun (more, rest) => (choice :: more, rest)
    match marks with
    | ⟨']', false⟩ :: rest => if first then ranged go ']' rest else some ([], rest)
    | ⟨'[', false⟩ :: rest =>
      match className? rest with
      | some (name, rest) => go (.named name) rest
      | none => ranged go '[' rest
    | marks =>
      match plainChar? marks with
      | some (c, rest) => ranged go c rest
      | none => none
where
  /-- A character, or the range that it starts. -/
  ranged (go : Choice → List Mark → Option (List Choice × List Mark)) (low : Char)
      (rest : List Mark) : Option (List Choice × List Mark) :=
    match rest with
    | ⟨'-', false⟩ :: ⟨']', false⟩ :: _ => go (.range low low) rest
    | ⟨'-', false⟩ :: after =>
      match plainChar? after with
      | some (high, rest) => go (.range low high) rest
      | none => none
    | _ => go (.range low low) rest

/-- Read a choice behind its opening bracket. -/
def choice? (marks : List Mark) : Option (Glob × List Mark) :=
  let (negated, marks) :=
    match marks with
    | ⟨'!', false⟩ :: rest => (true, rest)
    | _ => (false, marks)
  (choices? (marks.length + 1) true marks).map fun (choices, rest) => (.among negated choices, rest)

/-- Read a pattern. Each step takes a character, so `fuel` is the length of the text. -/
def ofMarksWithin : Nat → List Mark → Pattern
  | 0, _ => []
  | _ + 1, [] => []
  | fuel + 1, ⟨'*', false⟩ :: rest => .any :: ofMarksWithin fuel rest
  | fuel + 1, ⟨'?', false⟩ :: rest => .one :: ofMarksWithin fuel rest
  | fuel + 1, ⟨'[', false⟩ :: rest =>
    match choice? rest with
    | some (glob, rest) => glob :: ofMarksWithin fuel rest
    | none => .exactly '[' :: ofMarksWithin fuel rest
  | fuel + 1, ⟨'\\', false⟩ :: mark :: rest => .exactly mark.char :: ofMarksWithin fuel rest
  | fuel + 1, mark :: rest => .exactly mark.char :: ofMarksWithin fuel rest

/-- Read a pattern. -/
def ofMarks (marks : List Mark) : Pattern := ofMarksWithin marks.length marks

/-- The pattern that a text writes. -/
def ofText (text : String) : Pattern := ofMarks (Mark.ofText false text)

/-- Whether a part stands for a character. -/
def allows (c : Char) : Glob → Bool
  | .any | .one => true
  | .exactly d => c = d
  | .among negated choices => choices.any (Choice.holds c) ≠ negated

/-- Whether a pattern stands for a text. -/
def covers : Pattern → List Char → Bool
  | [], text => text.isEmpty
  | .any :: rest, [] => covers rest []
  | .any :: rest, c :: text => covers rest (c :: text) || covers (.any :: rest) text
  | _ :: _, [] => false
  | glob :: rest, c :: text => allows c glob && covers rest text
  termination_by pattern text => (pattern.length, text.length)

/-- Take what a pattern stands for off a text, at the front or at the end, as much or as little as
can be. -/
def trim (pattern : Pattern) (front long : Bool) (text : List Char) : List Char :=
  let counts := List.range (text.length + 1)
  let fits (count : Nat) : Bool :=
    if front then covers pattern (text.take count)
    else covers pattern (text.drop (text.length - count))
  match (if long then counts.reverse else counts).find? fits with
  | some count => if front then text.drop count else text.take (text.length - count)
  | none => text

/-- Whether some marks write anything but a text that stands for itself. -/
def isPattern (marks : List Mark) : Bool :=
  marks.any fun m => !m.quoted && (m.char = '*' || m.char = '?' || m.char = '[')

end Pattern

end CSharpBuild.Machine
