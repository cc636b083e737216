/-
The tool that replaces or deletes characters one by one. Its sets are lists of characters, ranges,
classes and repetitions; the second set is drawn out to the length of the first.
-/
import CSharpBuild.Machine.CharClass
import CSharpBuild.Machine.Escape
import CSharpBuild.Machine.Tool

namespace CSharpBuild.Machine.Tool.Translation

open Text

/-- An element of a set. -/
inductive Element where
  | char (c : Char)
  | range (first last : Char)
  | named (name : String)
  /-- So many of a character; as many as are needed if there is no number. -/
  | times (c : Char) (count : Option Nat)
  deriving Repr, DecidableEq

/-- A character as it was read: whether a backslash stood before it. -/
abbrev Read := Char × Bool

/-- Read backslash escapes. Each step takes a character, so `fuel` is the length of the text. -/
def escapes : Nat → List Char → List Read
  | 0, _ => []
  | _ + 1, [] => []
  | _ + 1, ['\\'] => [('\\', false)]
  | fuel + 1, '\\' :: c :: rest =>
    if Escape.isOctal c then
      let digits := ((c :: rest).take 3).takeWhile Escape.isOctal
      let digits := if 255 < Numeral.ofDigits 8 digits then digits.take 2 else digits
      (Char.ofNat (Numeral.ofDigits 8 digits), true) ::
        escapes fuel ((c :: rest).drop digits.length)
    else
      let char := if c = 'e' then c else (Escape.letter? false c).getD c
      (char, true) :: escapes fuel rest
  | fuel + 1, c :: rest => (c, false) :: escapes fuel rest

/-- How a character is shown in a complaint. -/
def shownChar (c : Char) : String :=
  if isPrintable c then String.singleton c else "\\" ++ String.ofList
    (let digits := Nat.toDigits 8 c.toNat
    List.replicate (3 - digits.length) '0' ++ digits)

/-- Read the number of a repetition, up to its closing bracket. -/
def repetition? (text : List Read) : Option (Option Nat × List Read) :=
  let digits := text.takeWhile fun r => r.1.isDigit && !r.2
  match text.drop digits.length with
  | (']', false) :: rest =>
    let chars := digits.map Prod.fst
    let base := if chars.head? = some '0' then 8 else 10
    let n := Numeral.ofDigits base chars
    some (if n = 0 then none else some n, rest)
  | _ => none

/-- Read what stands between brackets with a sign inside, such as a class. -/
def bracketed? (sign : Char) (text : List Read) : Option (List Char × List Read) :=
  go text []
where
  /-- Go on behind some characters, which are given in reverse order. -/
  go : List Read → List Char → Option (List Char × List Read)
    | (a, false) :: (']', false) :: rest, taken =>
      if a = sign then some (taken.reverse, rest) else go ((']', false) :: rest) (a :: taken)
    | (a, _) :: rest, taken => go rest (a :: taken)
    | [], _ => none

/-- Read the elements of a set. Each step takes a character, so `fuel` is the length of the text. -/
def elements : Nat → List Read → Except String (List Element)
  | 0, _ => .ok []
  | _ + 1, [] => .ok []
  | fuel + 1, text =>
    let add (e : Element) (rest : List Read) : Except String (List Element) := do
      .ok (e :: (← elements fuel rest))
    let plain (text : List Read) : Except String (List Element) :=
      match text with
      | (a, _) :: ('-', false) :: (b, _) :: rest =>
        if b < a then
          .error ("range-endpoints of '" ++ shownChar a ++ "-" ++ shownChar b
            ++ "' are in reverse collating sequence order")
        else add (.range a b) rest
      | (a, _) :: rest => add (.char a) rest
      | [] => .ok []
    match text with
    | ('[', false) :: (':', false) :: rest =>
      match bracketed? ':' rest with
      | some (name, after) =>
        let name := String.ofList name
        if name.isEmpty then .error "missing character class name '[::]'"
        else if (CharClass.ofName? name).isSome then add (.named name) after
        else .error ("invalid character class " ++ escaped name)
      | none => plain text
    | ('[', false) :: ('=', false) :: rest =>
      match bracketed? '=' rest with
      | some ([c], after) => add (.char c) after
      | some ([], _) => .error "missing equivalence class character '[==]'"
      | some (text, _) =>
        .error (String.ofList text ++ ": equivalence class operand must be a single character")
      | none => plain text
    | ('[', false) :: (c, _) :: ('*', false) :: rest =>
      match repetition? rest with
      | some (count, after) => add (.times c count) after
      | none => plain text
    | text => plain text

/-- Read a set. -/
def read (text : String) : Except String (List Element) :=
  let chars := escapes (text.length + 1) text.toList
  elements (chars.length + 1) chars

/-- All octets, in order. -/
def octets : List Char := (List.range 256).map Char.ofNat

/-- The characters of an element, with `spare` for a repetition without a number. -/
def Element.chars (spare : Nat) : Element → List Char
  | .char c => [c]
  | .range first last => octets.filter fun c => first ≤ c && c ≤ last
  | .named name => octets.filter ((CharClass.ofName? name).getD fun _ => false)
  | .times c count => List.replicate (count.getD spare) c

/-- The characters of a set that is to have a length. -/
def chars (length : Nat) (set : List Element) : List Char :=
  let fixed := (set.map fun e => (e.chars 0).length).foldl (· + ·) 0
  set.flatMap (Element.chars (length - fixed))

/-- Whether an element is the class of letters in one case. -/
def isCase : Element → Bool
  | .named name => name = "lower" || name = "upper"
  | _ => false

/-- What is replaced by what: cases by cases, and all else in turn. -/
def pairs (first second : List Char) : List (Char × Char) :=
  match second.getLast? with
  | none => []
  | some last =>
    first.zip (second ++ List.replicate (first.length - second.length) last)

/-- Replace characters; of two replacements the last one counts. -/
def replace (table : Array Char) (text : List Char) : List Char :=
  text.map fun c => table[c.toNat]?.getD c

/-- A table of replacements. -/
def tableOf (pairs : List (Char × Char)) : Array Char :=
  pairs.foldl (fun table (a, b) => table.setIfInBounds a.toNat b) octets.toArray

/-- Keep only one of equal characters next to each other, if they are of a kind. -/
def squeeze (kind : Char → Bool) : Option Char → List Char → List Char
  | _, [] => []
  | last, c :: rest =>
    if last = some c && kind c then squeeze kind last rest else c :: squeeze kind (some c) rest

/-- What is wrong with the number of sets, and what is said below that. -/
def operandFault? (deletes squeezes : Bool) (operands : List String) :
    Option (String × Option String) :=
  let least := if deletes = squeezes then 2 else 1
  let most := if deletes && !squeezes then 1 else 2
  match operands with
  | [] => some ("missing operand", none)
  | [one] =>
    if least = 2 then
      some ("missing operand after " ++ quoted one,
        some (if squeezes then "Two strings must be given when both deleting and squeezing repeats."
          else "Two strings must be given when translating."))
    else none
  | _ :: two :: rest =>
    if most = 1 then
      some ("extra operand " ++ quoted two, if rest.isEmpty then
        some "Only one string may be given when deleting without squeezing repeats." else none)
    else (rest.head?).map fun extra => ("extra operand " ++ quoted extra, none)

/-- The replacements that two sets ask for. -/
def replacements (complements truncates : Bool) (first second : List Element) :
    Except String (List (Char × Char)) :=
  let isClass (e : Element) : Bool := e matches .named _
  let from_ := chars 0 first
  let from_ := if complements then octets.filter fun c => !from_.contains c else from_
  let to_ := chars from_.length second
  if second.any fun e => isClass e && !isCase e then
    .error ("when translating, the only character classes that may appear in\n"
      ++ "string2 are 'upper' and 'lower'")
  else if (second.filter fun e => e matches .times _ none).length > 1 then
    .error "only one [c*] repeat construct may appear in string2"
  else if to_.isEmpty && !truncates && !from_.isEmpty then
    .error "when not truncating set1, string2 must be non-empty"
  else
    let cases := first.any isCase && second.any isCase && !complements
    if !cases && to_.length < from_.length && !truncates &&
        (second.getLast?.any isClass) then
      .error ("when translating with string1 longer than string2,\n"
        ++ "the latter string must not end with a character class")
    else if !cases && second.any isCase then
      .error "misaligned [:upper:] and/or [:lower:] construct"
    else .ok (if truncates then from_.zip to_ else pairs from_ to_)

/-- Replace, squeeze or delete characters. -/
def tr : Tool :=
  let options : Options := ⟨"cCdst", [("complement", 'c'), ("delete", 'd'),
    ("squeeze-repeats", 's'), ("truncate-set1", 't')], [], false⟩
  withOptions options 1 fun a c =>
    let complements := a.has 'c' || a.has 'C'
    match operandFault? (a.has 'd') (a.has 's') a.operands with
    | some (text, more) =>
      let e := (Effect.nothing c).complain c.name 1 text
      let more := more.toList ++ [hint c]
      { e with written := e.written ++ more.map fun text => (2, text ++ "\n") }
    | none =>
      let unescaped (text : String) : Bool :=
        ((escapes (text.length + 1) text.toList).getLast?) = some ('\\', false)
      let warned := (a.operands.filter unescaped).foldl (fun e _ => e.complain c.name 0
        "warning: an unescaped backslash at end of string is not portable") (Effect.nothing c)
      let sets : Except String (List (List Element)) := a.operands.mapM read
      match sets with
      | .error text => { warned.complain c.name 1 text with status := 1 }
      | .ok sets =>
        let first := sets.headD []
        let inFirst (c : Char) : Bool := ((chars 0 first).contains c) ≠ complements
        let result : Except String (List Char) :=
          match a.has 'd', sets with
          | true, [_] => .ok (c.input.filter fun c => !inFirst c)
          | true, _ :: second :: _ =>
            .ok (squeeze ((chars 0 second).contains ·) none (c.input.filter fun c => !inFirst c))
          | false, _ :: second :: _ => do
            let text := replace (tableOf (← replacements complements (a.has 't') first second))
              c.input
            let length := (chars 0 first).length
            .ok (if a.has 's' then squeeze ((chars length second).contains ·) none text else text)
          | _, _ => .ok (squeeze inFirst none c.input)
        match result with
        | .error text => warned.complain c.name 1 text
        | .ok text => (warned.out (String.ofList text)).takeAll c

end CSharpBuild.Machine.Tool.Translation
