/-
Fields: what becomes of a word of a script after its parameters have got their values. Separators
divide it (`Splitting`), and what is then a pattern stands for the names on the disk that it covers
(`Fields.matching`).

The parts of a word remember where they come from, because only what was not written in quotes is
divided, and because arguments that stand in quotes stay apart whatever the separators are.
-/
import CSharpBuild.Machine.Disk
import CSharpBuild.Machine.Pattern

namespace CSharpBuild.Machine

/-- A part of an expanded word. -/
inductive Bit where
  /-- A text that is not divided. -/
  | fixed (quoted : Bool) (text : String)
  /-- Texts that separators divide. They are also divided from each other. -/
  | loose (texts : List String)
  /-- Arguments that stay as they are. -/
  | apart (arguments : List String)
  deriving Repr, DecidableEq

namespace Bit

/-- The characters of a part that is not divided. -/
def marks : Bit → List Mark
  | .fixed quoted text => Mark.ofText quoted text
  | .loose texts => Mark.ofText false (" ".intercalate texts)
  | .apart arguments => Mark.ofText true (" ".intercalate arguments)

/-- The text of a word that is not divided. -/
def plain (bits : List Bit) : String := Mark.text (bits.flatMap marks)

end Bit

/-- The blanks that divide fields without being part of any. -/
def isFieldBlank (c : Char) : Bool := c = ' ' || c = '\t' || c = '\n'

/-- A word that is being divided. -/
structure Splitting where
  /-- The fields that are complete, the last one first. -/
  complete : List (List Mark)
  /-- The characters of the current field, the last one first, if it has begun. -/
  current : Option (List Mark)
  /-- How many fields there may still be, if there is a limit. -/
  room : Option Nat
  /-- How much of the last field counts when there is no room for another. -/
  kept : Option Nat
  /-- Whether the last field ended at a blank, so that a separator may follow. -/
  afterBlank : Bool
  /-- Whether arguments that stay apart came last. -/
  afterApart : Bool

namespace Splitting

/-- Nothing yet. -/
def start (room : Option Nat) : Splitting := ⟨[], none, room, none, false, false⟩

/-- Add characters to the current field, which begins if it has not. -/
def push (s : Splitting) (marks : List Mark) : Splitting :=
  { s with current := some (marks.reverse ++ s.current.getD []) }

/-- End the current field. -/
def cut (s : Splitting) : Splitting :=
  { s with
    complete := (s.current.getD []).reverse :: s.complete
    current := none
    room := s.room.map (· - 1) }

/-- Take a character that may divide. `isBlank` and `separates` say what it is, and `strict` that
arguments came right before, after which each blank ends a field. -/
def takeChar (strict : Bool) (s : Splitting) (c : Char) (separates isBlank : Bool) : Splitting :=
  let size := (s.current.getD []).length
  let add (s : Splitting) : Splitting := s.push [⟨c, false⟩]
  if s.room = some 0 then
    if isBlank then add { s with kept := s.kept.orElse fun _ => some size }
    else
      add { s with kept := if separates && s.afterBlank then s.kept else none, afterBlank := false }
  else if s.afterBlank && separates then
    if isBlank then { s with current := none }
    else { s with current := none, afterBlank := false }
  else if separates then
    let blank := isBlank && !strict
    if s.current.isNone && blank then { s with afterBlank := false }
    else if s.room = some 1 then
      add { s with room := some 0, kept := some size, afterBlank := blank }
    else { s.cut with afterBlank := blank }
  else add { s with afterBlank := false }

/-- Take texts that separators divide. -/
def takeLoose (separators : List Char) (s : Splitting) (texts : List String) : Splitting :=
  let strict := s.afterApart
  let chars (s : Splitting) (text : String) : Splitting :=
    text.toList.foldl (fun s c =>
      let separates := separators.contains c
      s.takeChar strict c separates (separates && isFieldBlank c)) s
  let s := { s with afterBlank := false, afterApart := false }
  match texts with
  | [] => s
  | first :: rest =>
    rest.foldl (fun s text => chars (s.takeChar strict ' ' true true) text) (chars s first)

/-- Take arguments that stay apart. -/
def takeApart (s : Splitting) (arguments : List String) : Splitting :=
  let add (s : Splitting) (text : String) : Splitting :=
    if text.isEmpty then s else s.push (Mark.ofText true text)
  match arguments with
  | [] => s
  | first :: rest =>
    let s := rest.foldl (fun s text => add s.cut text) (add s first)
    { s with afterBlank := false, afterApart := true }

/-- Take a part of a word. -/
def take (separators : List Char) (s : Splitting) : Bit → Splitting
  | .fixed quoted text =>
    if text.isEmpty && !quoted then s else s.push (Mark.ofText quoted text)
  | .loose texts => s.takeLoose separators texts
  | .apart arguments => s.takeApart arguments

/-- The fields when there is no more to come. -/
def finish (s : Splitting) : List (List Mark) :=
  let last : List (List Mark) :=
    if s.afterApart then [(s.current.getD []).reverse]
    else
      match s.current, s.kept with
      | none, _ => []
      | some marks, none => [marks.reverse]
      | some marks, some count => if count = 0 then [] else [marks.reverse.take count]
  s.complete.reverse ++ last

end Splitting

namespace Fields

/-- The separators when none are set. -/
def usualSeparators : String := " \t\n"

/-- Divide a word, into no more fields than there is room for. -/
def split (separators : String) (room : Option Nat) (bits : List Bit) : List (List Mark) :=
  (bits.foldl (Splitting.take separators.toList) (Splitting.start room)).finish

/-! ## Names on the disk -/

/-- Divide a pattern at its separators of names. -/
def segments (marks : List Mark) : List (List Mark) := marks.splitOnP fun m => m.char = '/'

/-- The text that a part of a pattern stands for, if there is just one. -/
def literal? (pattern : Pattern) : Option String :=
  let char? : Glob → Option Char
    | .exactly c => some c
    | _ => none
  (pattern.mapM char?).map String.ofList

/-- The names in a directory that a pattern covers. A dot in front must be written. -/
def covered (d : Disk) (cwd : Place) (directory : String) (pattern : Pattern) : List String :=
  match d.directory cwd (if directory.isEmpty then "." else directory) with
  | .error _ => []
  | .ok place =>
    let hidden := pattern.head? = some (.exactly '.')
    (["." , ".."] ++ d.entries place).filter fun name =>
      (hidden || name.toList.head? ≠ some '.') && Pattern.covers pattern name.toList

/-- The names that the segments of a pattern stand for, below a directory. -/
def under (d : Disk) (cwd : Place) : String → List (List Mark) → List String
  | directory, [] => [directory]
  | directory, segment :: rest =>
    let pattern := Pattern.ofMarks segment
    let slash := if rest.isEmpty then "" else "/"
    match literal? pattern with
    | some text =>
      let name := directory ++ text
      if rest.isEmpty then (if (d.findLink cwd name).toBool then [name] else [])
      else under d cwd (name ++ slash) rest
    | none =>
      (covered d cwd directory pattern).flatMap fun name =>
        if rest.isEmpty then [directory ++ name] else under d cwd (directory ++ name ++ slash) rest

/-- The names that a pattern stands for, in order. -/
def matching (d : Disk) (cwd : Place) (marks : List Mark) : List String :=
  if (segments marks).all fun segment => (literal? (Pattern.ofMarks segment)).isSome then []
  else (under d cwd "" (segments marks)).mergeSort fun a b => a ≤ b

/-- The names that a field stands for: itself, unless it is a pattern that covers any. -/
def names (d : Disk) (cwd : Place) (marks : List Mark) : List String :=
  if Pattern.isPattern marks then
    match matching d cwd marks with
    | [] => [Mark.text marks]
    | found => found
  else [Mark.text marks]

end Fields

end CSharpBuild.Machine
