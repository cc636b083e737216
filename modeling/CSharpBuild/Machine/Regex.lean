/-
Regular expressions and how they match: `Regex.search` finds the leftmost match in a text, and of
those the longest. Among equally long ones, what is written first takes as much as it can.

An expression takes a stand in a text to all stands that it can reach (`Regex.reach`), those that are
further on before the others. Of stands at the same place only the first counts, unless what the
groups have matched can still make a difference.
-/
import CSharpBuild.Machine.Pattern
import Std.Data.HashSet.Basic

namespace CSharpBuild.Machine

/-- A place between two characters. -/
inductive Edge where
  | textStart
  | textEnd
  | lineStart
  | lineEnd
  /-- Between a character of a word and one that is none, or not. -/
  | word (present : Bool)
  | wordStart
  | wordEnd
  deriving Repr, DecidableEq

/-- A regular expression. -/
inductive Regex where
  | empty
  | char (c : Char)
  | any
  | among (negated : Bool) (choices : List Choice)
  | edge (edge : Edge)
  | both (first second : Regex)
  | either (first second : Regex)
  | repeated (body : Regex) (least : Nat) (most : Option Nat)
  | group (number : Nat) (body : Regex)
  /-- What a group has matched, once more. -/
  | again (number : Nat)
  deriving Repr

namespace Regex

/-- A text in which something is looked for. -/
structure Subject where
  chars : Array Char
  /-- Whether letters match in upper and lower case. -/
  folded : Bool
  /-- Whether lines count, so that a line end is not just any character. -/
  byLine : Bool

/-- A text. -/
def Subject.ofText (folded byLine : Bool) (text : List Char) : Subject :=
  ⟨text.toArray, folded, byLine⟩

/-- A stand in a text, with what the groups have matched so far. -/
structure Stand where
  position : Nat
  groups : List (Nat × Nat × Nat)
  deriving Repr, DecidableEq

/-- Whether a character is part of a word. -/
def isWordChar (c : Char) : Bool := c.isAlphanum || c = '_'

namespace Subject

/-- Whether there is a character of a word at a place. -/
def wordAt (t : Subject) (position : Nat) : Bool := (t.chars[position]?).any isWordChar

/-- Whether there is a character of a word before a place. -/
def wordBefore (t : Subject) (position : Nat) : Bool := position ≠ 0 && t.wordAt (position - 1)

/-- Whether a place is of a kind. -/
def isAt (t : Subject) (position : Nat) : Edge → Bool
  | .textStart => position = 0
  | .textEnd => position = t.chars.size
  | .lineStart => position = 0 || (t.byLine && t.chars[position - 1]? = some '\n')
  | .lineEnd => position = t.chars.size || (t.byLine && t.chars[position]? = some '\n')
  | .word present => (t.wordBefore position ≠ t.wordAt position) = present
  | .wordStart => !t.wordBefore position && t.wordAt position
  | .wordEnd => t.wordBefore position && !t.wordAt position

/-- Whether two characters are the same. -/
def same (t : Subject) (a b : Char) : Bool := a = b || (t.folded && a.toLower = b.toLower)

/-- Whether a character is among some. -/
def isAmong (t : Subject) (c : Char) (choices : List Choice) : Bool :=
  choices.any (Choice.holds c) || (t.folded && (choices.any (Choice.holds c.toLower)
    || choices.any (Choice.holds c.toUpper)))

/-- How far a part of a text is repeated at a place, if it is. -/
def repeats? (t : Subject) (start stop position : Nat) : Option Nat :=
  let count := stop - start
  if (List.range count).all fun i =>
    match t.chars[start + i]?, t.chars[position + i]? with
    | some a, some b => t.same a b
    | _, _ => false
  then some (position + count) else none

end Subject

/-- Of stands at the same place keep the first. `exact` says that groups make a difference. -/
def distinct (exact : Bool) (stands : List Stand) : List Stand :=
  match stands with
  | [] | [_] => stands
  | _ =>
    if exact then stands.eraseDups
    else
      let step (seen : Std.HashSet Nat × List Stand) (s : Stand) : Std.HashSet Nat × List Stand :=
        if seen.1.contains s.position then seen
        else (seen.1.insert s.position, s :: seen.2)
      (stands.foldl step (Std.HashSet.emptyWithCapacity 16, [])).2.reverse

/-- Stands that are further on before the others. -/
def furthestFirst (stands : List Stand) : List Stand :=
  match stands with
  | [] | [_] => stands
  | _ => stands.mergeSort fun a b => b.position ≤ a.position

/-- Repeat a step as often as it is allowed, and go on as long as it leads to new places. The stands
of the last round come first in `found`. Each round goes further, so that the length of the text
bounds the rounds. -/
def repeatStep (exact : Bool) (step : Stand → List Stand) (least : Nat) (most : Option Nat) :
    Nat → Nat → List Stand → List Stand → List Stand
  | 0, _, _, found => found
  | fuel + 1, count, stands, found =>
    let found := if least ≤ count then stands ++ found else found
    if most = some count then found
    else
      let next := distinct exact (stands.flatMap fun s =>
        (step s).filter fun after => count < least || s.position < after.position)
      if next.isEmpty then found
      else repeatStep exact step least most fuel (count + 1) next found

/-- The stands that an expression leads to. -/
def reach (t : Subject) (exact : Bool) : Regex → Stand → List Stand
  | .empty, s => [s]
  | .char c, s =>
    match t.chars[s.position]? with
    | some d => if t.same c d then [{ s with position := s.position + 1 }] else []
    | none => []
  | .any, s =>
    if s.position < t.chars.size then [{ s with position := s.position + 1 }] else []
  | .among negated choices, s =>
    match t.chars[s.position]? with
    | some d =>
      if t.isAmong d choices ≠ negated then [{ s with position := s.position + 1 }] else []
    | none => []
  | .edge e, s => if t.isAt s.position e then [s] else []
  | .both first second, s =>
    distinct exact ((reach t exact first s).flatMap (reach t exact second))
  | .either first second, s =>
    furthestFirst (distinct exact (reach t exact first s ++ reach t exact second s))
  | .repeated body least most, s =>
    let rounds := t.chars.size - s.position + least + 2
    furthestFirst (distinct exact (repeatStep exact (reach t exact body) least most rounds 0 [s] []))
  | .group number body, s =>
    (reach t exact body s).map fun after => { after with
      groups := (number, s.position, after.position) ::
        after.groups.filter (·.1 ≠ number) }
  | .again number, s =>
    match s.groups.lookup number with
    | some (start, stop) =>
      match t.repeats? start stop s.position with
      | some position => [{ s with position := position }]
      | none => []
    | none => []

/-- Whether an expression refers back to a group. -/
def looksBack : Regex → Bool
  | .again _ => true
  | .both a b | .either a b => a.looksBack || b.looksBack
  | .repeated a _ _ | .group _ a => a.looksBack
  | _ => false

/-- The characters that a match must begin with, if there are only some. -/
def firstChars? : Regex → Option (List Char)
  | .char c => some [c]
  | .both (.edge _) b => b.firstChars?
  | .both (.group _ a) _ | .both a _ => a.firstChars?
  | .either a b => do pure ((← a.firstChars?) ++ (← b.firstChars?))
  | .group _ a => a.firstChars?
  | .repeated a (_ + 1) _ => a.firstChars?
  | _ => none

/-- A match: where it starts and ends, and what its groups have matched. -/
structure Match where
  start : Nat
  stop : Nat
  groups : List (Nat × Nat × Nat)
  deriving Repr, DecidableEq

/-- The best match at a place, of those that are acceptable. -/
def matchAt? (t : Subject) (r : Regex) (accept : Nat → Nat → Bool) (position : Nat) :
    Option Match :=
  let stands := (reach t r.looksBack r ⟨position, []⟩).filter fun s => accept position s.position
  match stands with
  | [] => none
  | first :: rest =>
    let best := rest.foldl (fun best s => if best.position < s.position then s else best) first
    some ⟨position, best.position, best.groups⟩

/-- The first match from a place on, of those that are acceptable. Each step goes one further, so
`fuel` is what is left of the text. -/
def searchWithin (t : Subject) (r : Regex) (first : Option (List Char))
    (accept : Nat → Nat → Bool) : Nat → Nat → Option Match
  | 0, _ => none
  | fuel + 1, position =>
    let possible := match first with
      | none => true
      | some chars => (t.chars[position]?).any fun c => chars.any (t.same c)
    let found := if possible then matchAt? t r accept position else none
    match found with
    | some m => some m
    | none => searchWithin t r first accept fuel (position + 1)

/-- The first match from a place on that is acceptable. -/
def searchIf (t : Subject) (r : Regex) (accept : Nat → Nat → Bool) (position : Nat) :
    Option Match :=
  searchWithin t r r.firstChars? accept (t.chars.size + 1 - position) position

/-- The first match from a place on. -/
def search (t : Subject) (r : Regex) (position : Nat) : Option Match :=
  searchIf t r (fun _ _ => true) position

/-- A part of a text. -/
def Subject.part (t : Subject) (start stop : Nat) : List Char := (t.chars.extract start stop).toList

/-- What a group of a match has matched; nothing if it took no part. -/
def Match.group (m : Match) (t : Subject) (number : Nat) : List Char :=
  if number = 0 then t.part m.start m.stop
  else
    match m.groups.lookup number with
    | some (start, stop) => t.part start stop
    | none => []

end Regex

end CSharpBuild.Machine
