/-
Backslash escapes in what `echo` and `printf` are told to write. An escape stands for one octet, or
for one character of Unicode; `\c` ends all output.
-/
import CSharpBuild.Text.Numeral
import CSharpBuild.Text.Octets

namespace CSharpBuild.Machine.Escape

open Text

/-- The digits of a base at the front of a text, at most `count` of them, and the number they write.
-/
def number (base : Nat) : Nat → Nat → List Char → Nat × List Char
  | 0, value, text => (value, text)
  | _ + 1, value, [] => (value, [])
  | count + 1, value, c :: rest =>
    match Numeral.digit? c with
    | some digit =>
      if digit < base then number base count (value * base + digit) rest else (value, c :: rest)
    | none => (value, c :: rest)

theorem number_length_le (base count value : Nat) (text : List Char) :
    (number base count value text).2.length ≤ text.length := by
  induction count generalizing value text with
  | zero => simp [number]
  | succ count ih =>
    cases text with
    | nil => simp [number]
    | cons c rest =>
      rw [number]
      split
      · split
        · exact Nat.le_succ_of_le (ih ..)
        · simp
      · simp

/-- The character that a letter after the backslash stands for. `wide` adds one that only the
installed programs know. -/
def letter? (wide : Bool) : Char → Option Char
  | 'a' => some '\x07'
  | 'b' => some '\x08'
  | 'e' => some '\x1b'
  | 'f' => some '\x0c'
  | 'n' => some '\n'
  | 'r' => some '\r'
  | 't' => some '\t'
  | 'v' => some '\x0b'
  | '\\' => some '\\'
  | '"' => if wide then some '"' else none
  | _ => none

/-- Whether a character is an octal digit. -/
def isOctal (c : Char) : Bool := '0' ≤ c ∧ c ≤ '7'

/-- The octets of the character of a number. -/
def unicode (value : Nat) : List Char :=
  (Octets.ofText (String.singleton (Char.ofNat value))).toList

/-- What the text after a backslash stands for, and what is left. A backslash before anything else
stands for itself. -/
def piece (wide : Bool) : List Char → List Char × List Char
  | [] => (['\\'], [])
  | c :: rest =>
    let hexadecimal (count : Nat) (make : Nat → List Char) : List Char × List Char :=
      if wide ∧ (rest.head?.any (Numeral.isDigitIn 16)) then
        let (value, rest) := number 16 count 0 rest
        (make value, rest)
      else (['\\'], c :: rest)
    match letter? wide c with
    | some letter => ([letter], rest)
    | none =>
      if isOctal c then
        let (value, rest) := number 8 3 0 (c :: rest)
        ([Char.ofNat (value % 256)], rest)
      else
        match c with
        | 'x' => hexadecimal 2 fun value => [Char.ofNat value]
        | 'u' => hexadecimal 4 unicode
        | 'U' => hexadecimal 8 unicode
        | _ => (['\\'], c :: rest)

theorem piece_length_le (wide : Bool) (text : List Char) :
    (piece wide text).2.length ≤ text.length := by
  cases text with
  | nil => simp [piece]
  | cons c rest =>
    have h (base count : Nat) := number_length_le base count 0 rest
    have ho := number_length_le 8 3 0 (c :: rest)
    unfold piece
    simp only
    split
    · simp
    · split
      · exact ho
      · split
        all_goals first
          | (split; · exact Nat.le_succ_of_le (h ..)); simp
          | simp

/-- A zero before octal digits counts for nothing. -/
def dropZero : List Char → List Char
  | '0' :: digit :: rest => if isOctal digit then digit :: rest else '0' :: digit :: rest
  | text => text

theorem dropZero_length_le (text : List Char) : (dropZero text).length ≤ text.length := by
  rw [dropZero.eq_def]
  split
  · split <;> simp
  · simp

/-- A text with what its escapes stand for, and whether nothing more is to be written. -/
def expand (wide : Bool) : List Char → List Char × Bool
  | [] => ([], false)
  | '\\' :: 'c' :: _ => ([], true)
  | '\\' :: rest =>
    let first := piece wide (dropZero rest)
    let (more, stop) := expand wide first.2
    (first.1 ++ more, stop)
  | c :: rest =>
    let (more, stop) := expand wide rest
    (c :: more, stop)
  termination_by text => text.length
  decreasing_by
    · exact Nat.lt_succ_of_le (Nat.le_trans (piece_length_le ..) (dropZero_length_le _))
    · simp

end CSharpBuild.Machine.Escape
