/-
Scripts of the stream editor: commands, each for some lines, and how they are read. A fault is told
with the number of characters that were read before it.
-/
import CSharpBuild.Machine.Regex.Reader
import CSharpBuild.Machine.Tool

namespace CSharpBuild.Machine.Tool.Sed

open Text

/-- An expression to look for; without one the last that was looked for counts. -/
structure Needle where
  regex : Option Regex
  folded : Bool
  byLine : Bool

/-- A line, or several of them. -/
inductive Address where
  | number (n : Nat)
  | every (first step : Nat)
  | last
  | matching (needle : Needle)

/-- Where a range of lines ends. -/
inductive RangeEnd where
  | at_ (address : Address)
  | after (count : Nat)
  | multiple (count : Nat)

/-- Which lines a command is for. -/
structure Selection where
  first : Option Address
  last : Option RangeEnd
  negated : Bool

/-- How letters are changed in what replaces a match. -/
inductive Case where
  | upper
  | lower
  | upperNext
  | lowerNext
  | asIs
  deriving Repr, DecidableEq

/-- A part of what replaces a match. -/
inductive Replacement where
  | text (text : List Char)
  | group (number : Nat)
  | case (change : Case)
  deriving Repr, DecidableEq

/-- A replacement of matches. -/
structure Substitution where
  needle : Needle
  replacement : List Replacement
  /-- The number of the first match that is replaced. -/
  number : Nat
  all : Bool
  prints : Bool
  file : Option String

/-- What a command does. -/
inductive Action where
  | open_
  | close
  | nothing
  | append (text : List Char)
  | insert (text : List Char)
  | change (text : List Char)
  | branch (label : String)
  | branchIf (replaced : Bool) (label : String)
  | delete
  | deleteLine
  | getHold
  | appendHold
  | hold
  | holdMore
  | exchange
  | show (width : Option Nat)
  | number
  | fileName
  | next
  | appendNext
  | print
  | printLine
  | quit (prints : Bool) (status : Nat)
  | readFile (path : String)
  | readLine (path : String)
  | substitute (s : Substitution)
  | write (lineOnly : Bool) (path : String)
  | translate (table : List (Char × Char))
  | clear

/-- A command. -/
structure Command where
  selection : Selection
  action : Action

/-- A script: its commands, its labels with the places that they stand for, and whether it asks for
lines not to be printed by themselves. -/
structure Script where
  commands : List Command
  labels : List (String × Nat)
  isQuiet : Bool

/-! ## Reading -/

/-- What is being read: the characters that are left, how many and how many lines have been read, and
what has come out, the last command first. -/
structure Reading where
  rest : List Char
  count : Nat
  line : Nat
  commands : List Command
  labels : List (String × Nat)
  depth : Nat

/-- A fault with the count of characters and the line that it is told with. -/
structure Fault where
  words : String
  count : Nat
  line : Nat
  /-- Whether the words stand by themselves. -/
  isBare : Bool

/-- A step of reading. -/
abbrev Step := StateT Reading (Except Fault)

/-- Fail at the place that has been reached. -/
def flaw {α : Type} (words : String) : Step α := do
  let s ← get
  throw ⟨words, s.count, s.line, false⟩

/-- Take a character. -/
def take : Step (Option Char) := do
  let s ← get
  match s.rest with
  | [] => pure none
  | c :: rest =>
    set { s with rest := rest, count := s.count + 1, line := if c = '\n' then s.line + 1 else s.line }
    pure (some c)

/-- Put a character back. -/
def putBack (c : Option Char) : Step Unit :=
  match c with
  | none => pure ()
  | some c => modify fun s => { s with
      rest := c :: s.rest, count := s.count - 1, line := if c = '\n' then s.line - 1 else s.line }

/-- Take characters as long as they are of a kind. -/
def takeWhile (kind : Char → Bool) : Step (List Char) := do
  let s ← get
  let taken := s.rest.takeWhile kind
  set { s with
    rest := s.rest.drop taken.length
    count := s.count + taken.length
    line := s.line + taken.count '\n' }
  pure taken

/-- Whether a character is a blank within a line. -/
def isBlank (c : Char) : Bool := c = ' ' || c = '\t'

/-- Take the next character that is no blank. -/
def takeFilled : Step (Option Char) := do
  let _ ← takeWhile isBlank
  take

/-- Read a number of which one digit has been taken. -/
def number (first : Option Char) : Step Nat := do
  match first with
  | none => pure 0
  | some c =>
    if c.isDigit then
      let more ← takeWhile Char.isDigit
      pure (Numeral.ofDigits 10 (c :: more))
    else
      putBack first
      pure 0

/-- The character for a letter behind a backslash. -/
def letter? : Char → Option Char
  | 'a' => some '\x07'
  | 'f' => some '\x0c'
  | 'n' => some '\n'
  | 'r' => some '\r'
  | 't' => some '\t'
  | 'v' => some '\x0b'
  | _ => none

/-- A character that is written as a number behind a backslash, and what is left. -/
def numbered? (text : List Char) : Option (Char × List Char) :=
  let read (base count : Nat) (rest : List Char) : Option (Char × List Char) :=
    let digits := (rest.take count).takeWhile (Numeral.isDigitIn base)
    if digits.isEmpty then none
    else some (Char.ofNat (Numeral.ofDigits base digits % 256), rest.drop digits.length)
  match text with
  | 'x' :: rest => read 16 2 rest
  | 'o' :: rest => read 8 3 rest
  | 'd' :: rest => read 10 3 rest
  | 'c' :: c :: rest => some (Char.ofNat ((c.toUpper.toNat + 64) % 128), rest)
  | _ => none

/-- Put characters that are written as numbers in their places. Each step takes a character, so
`fuel` is the length of the text. -/
def withNumbers : Nat → List Char → List Char
  | 0, text => text
  | _ + 1, [] => []
  | fuel + 1, '\\' :: rest =>
    match numbered? rest with
    | some (c, rest) => c :: withNumbers fuel rest
    | none =>
      match rest with
      | c :: rest => '\\' :: c :: withNumbers fuel rest
      | [] => ['\\']
  | fuel + 1, c :: rest => c :: withNumbers fuel rest

/-- The state of looking for the end of an expression: within brackets a delimiter does not end it.
-/
inductive Bracket where
  | outside
  /-- Behind an opening bracket, where a closing one stands for itself. -/
  | opened
  | inside
  /-- In the name of a class, up to its sign. -/
  | named (sign : Char)
  deriving Repr, DecidableEq

/-- Read up to a delimiter; `none` if there is none. Each step takes a character, so `fuel` is the
number of those that are left. -/
def untilDelimiter (delimiter : Char) (isRegex : Bool) : Nat → Bracket → List Char →
    Step (Option (List Char))
  | 0, _, _ => pure none
  | fuel + 1, bracket, text => do
    match ← take with
    | none => pure none
    | some '\n' =>
      putBack (some '\n')
      pure none
    | some c =>
      if c = delimiter && bracket = .outside then pure (some text.reverse)
      else if c = '\\' then
        match ← take with
        | none => pure none
        | some d =>
          let after := if bracket = .opened then .inside else bracket
          if d = ']' && bracket ≠ .outside && isRegex then
            untilDelimiter delimiter isRegex fuel .outside (d :: '\\' :: text)
          else if d = 'n' && isRegex && delimiter ≠ 'n' then
            untilDelimiter delimiter isRegex fuel after ('\n' :: text)
          else if d = '\n' || (d = delimiter && (isRegex || d ≠ '&')) then
            untilDelimiter delimiter isRegex fuel after (d :: text)
          else untilDelimiter delimiter isRegex fuel after (d :: '\\' :: text)
      else
        let after : Bracket :=
          if !isRegex then .outside
          else
            match bracket, c with
            | .outside, '[' => .opened
            | .outside, _ => .outside
            | .opened, '^' => if text.head? = some '[' then .opened else .inside
            | .opened, '[' | .inside, '[' => .inside
            | .opened, _ => .inside
            | .inside, ']' => .outside
            | .inside, c =>
              if text.head? = some '[' && (c = ':' || c = '.' || c = '=') then .named c else .inside
            | .named sign, ']' => if text.head? = some sign then .inside else .named sign
            | .named sign, _ => .named sign
        untilDelimiter delimiter isRegex fuel after (c :: text)

/-- Read up to a delimiter. -/
def delimited (delimiter : Char) (isRegex : Bool) : Step (Option (List Char)) := do
  untilDelimiter delimiter isRegex ((← get).rest.length + 1) .outside []

/-- Make an expression to look for: with how many groups it has. -/
def needle (extended : Bool) (text : List Char) (folded byLine : Bool) : Step (Needle × Nat) := do
  if text.isEmpty then
    if folded || byLine then flaw "cannot specify modifiers on empty regexp"
    else pure (⟨none, false, false⟩, 9)
  else
    let dialect : Regex.Dialect := ⟨extended, letter?, false, false, true⟩
    match Regex.read dialect (String.ofList (withNumbers (text.length + 1) text)) with
    | .ok (r, groups) => pure (⟨some r, folded, byLine⟩, groups)
    | .error .bareClass =>
      let s ← get
      throw ⟨Regex.Fault.bareClass.words, s.count, s.line, true⟩
    | .error fault => flaw fault.words

/-- Read the letters behind an address; each takes a character. -/
def addressLetters : Nat → Bool → Bool → Step (Bool × Bool)
  | 0, folded, byLine => pure (folded, byLine)
  | fuel + 1, folded, byLine => do
    match ← takeFilled with
    | some 'I' => addressLetters fuel true byLine
    | some 'M' => addressLetters fuel folded true
    | c =>
      putBack c
      pure (folded, byLine)

/-- Read an address of which the first character has been taken; `none` if it begins none. -/
def address? (extended : Bool) (first : Option Char) : Step (Option RangeEnd) := do
  match first with
  | none => pure none
  | some c =>
    if c = '/' || c = '\\' then
      let delimiter ← if c = '\\' then take else pure (some '/')
      match ← delimited (delimiter.getD '/') true with
      | none => flaw "unterminated address regex"
      | some text =>
        let (folded, byLine) ← addressLetters ((← get).rest.length + 1) false false
        let (n, _) ← needle extended text folded byLine
        pure (some (.at_ (.matching n)))
    else if c.isDigit then
      let n ← number first
      match ← takeFilled with
      | some '~' =>
        let step ← number (← takeFilled)
        pure (some (.at_ (if step = 0 then .number n else .every n step)))
      | c =>
        putBack c
        pure (some (.at_ (.number n)))
    else if c = '+' then pure (some (.after (← number (← takeFilled))))
    else if c = '~' then pure (some (.multiple (← number (← takeFilled))))
    else if c = '$' then pure (some (.at_ .last))
    else pure none

/-- Read the end of a command. -/
def endOfCommand : Step Unit := do
  match ← takeFilled with
  | none | some '\n' | some ';' => pure ()
  | some c =>
    if c = '\x7d' || c = '#' then putBack (some c) else flaw "extra characters after command"

/-- Read a label. -/
def label : Step String := do
  let _ ← takeWhile isBlank
  let name ← takeWhile fun c => c ≠ ';' && c ≠ '\x7d' && !CharClass.isSpace c
  pure (String.ofList name)

/-- Read the name of a file. -/
def fileName : Step String := do
  let _ ← takeWhile isBlank
  let name ← takeWhile (· ≠ '\n')
  if name.isEmpty then flaw "missing filename in r/R/w/W commands"
  else
    let _ ← take
    pure (String.ofList name)

/-- The text of a line, with what the backslashes in it stand for. Each step takes a character, so
`fuel` is the length of the text. -/
def unescaped : Nat → List Char → List Char
  | 0, _ => []
  | _ + 1, [] => []
  | _ + 1, ['\\'] => []
  | fuel + 1, '\\' :: c :: rest =>
    match numbered? (c :: rest) with
    | some (d, rest) => d :: unescaped fuel rest
    | none => (letter? c).getD c :: unescaped fuel rest
  | fuel + 1, c :: rest => c :: unescaped fuel rest

/-- The text up to the end of a line that no backslash hides. -/
def lineText : Bool → List Char → List Char
  | _, [] => []
  | false, '\n' :: _ => []
  | false, '\\' :: rest => '\\' :: lineText true rest
  | _, c :: rest => c :: lineText false rest

/-- Read the text that a command adds. -/
def addedText : Step (List Char) := do
  match ← takeFilled with
  | none => flaw "expected \\ after \x60a', \x60c' or \x60i'"
  | some '\\' =>
    let blanks ← takeWhile isBlank
    match ← take with
    | none => pure ()
    | some '\n' => pure ()
    | some c =>
      putBack (some c)
      modify fun s => { s with rest := blanks ++ s.rest, count := s.count - blanks.length }
  | some c => putBack (some c)
  let s ← get
  let text := lineText false s.rest
  let taken := min s.rest.length (text.length + 1)
  set { s with rest := s.rest.drop taken, count := s.count + taken, line := s.line + 1 }
  if s.rest.isEmpty then pure [] else pure (unescaped (text.length + 1) text ++ ['\n'])

/-- Read what replaces a match. Each step takes a character, so `fuel` is the length of the text. -/
def replacements : Nat → List Char → List Replacement
  | 0, _ => []
  | _ + 1, [] => []
  | fuel + 1, '&' :: rest => .group 0 :: replacements fuel rest
  | fuel + 1, '\\' :: c :: rest =>
    let case_? : Option Case :=
      match c with
      | 'U' => some .upper
      | 'L' => some .lower
      | 'u' => some .upperNext
      | 'l' => some .lowerNext
      | 'E' => some .asIs
      | _ => none
    match case_?, numbered? (c :: rest) with
    | some change, _ => .case change :: replacements fuel rest
    | none, some (d, rest) => .text [d] :: replacements fuel rest
    | none, none =>
      if c.isDigit then .group (c.toNat - '0'.toNat) :: replacements fuel rest
      else .text [(letter? c).getD c] :: replacements fuel rest
  | fuel + 1, c :: rest => .text [c] :: replacements fuel rest

/-- The letters behind a replacement, as they have been read. -/
structure Letters where
  folded : Bool
  byLine : Bool
  all : Bool
  prints : Bool
  number : Option Nat
  file : Option String

/-- Read the letters behind a replacement; each takes a character. -/
def letters : Nat → Letters → Step Letters
  | 0, l => pure l
  | fuel + 1, l => do
    match ← take with
    | none | some '\n' | some ';' => pure l
    | some c =>
      match c with
      | 'i' | 'I' => letters fuel { l with folded := true }
      | 'm' | 'M' => letters fuel { l with byLine := true }
      | 'e' => letters fuel l
      | 'p' =>
        if l.prints then flaw "multiple \x60p' options to \x60s' command"
        else letters fuel { l with prints := true }
      | 'g' =>
        if l.all then flaw "multiple \x60g' options to \x60s' command"
        else letters fuel { l with all := true }
      | 'w' => do pure { l with file := some (← fileName) }
      | c =>
        if c = '\x7d' || c = '#' then
          putBack (some c)
          pure l
        else if isBlank c then letters fuel l
        else if c.isDigit then
          if l.number.isSome then flaw "multiple number options to \x60s' command"
          else
            match ← number (some c) with
            | 0 => flaw "number option to \x60s' command may not be zero"
            | n => letters fuel { l with number := some n }
        else flaw "unknown option to \x60s'"

/-- Read a replacement of matches. -/
def substitution (extended : Bool) : Step Action := do
  let unterminated : Step Action := flaw "unterminated \x60s' command"
  match ← take with
  | none => unterminated
  | some delimiter =>
    match ← delimited delimiter true with
    | none => unterminated
    | some pattern =>
      match ← delimited delimiter false with
      | none => unterminated
      | some text =>
        let parts := replacements (text.length + 1) text
        let l ← letters ((← get).rest.length + 1) ⟨false, false, false, false, none, none⟩
        let (n, groups) ← needle extended pattern l.folded l.byLine
        let most := parts.foldl (fun most part =>
          match part with
          | .group number => max most number
          | _ => most) 0
        if groups < most then
          flaw ("invalid reference \\" ++ toString most ++ " on \x60s' command's RHS")
        else pure (.substitute ⟨n, parts, l.number.getD 1, l.all, l.prints, l.file⟩)

/-- What a list of characters to translate writes. -/
def translated : List Char → List Char
  | '\\' :: '\\' :: rest => '\\' :: translated rest
  | '\\' :: c :: rest =>
    match letter? c with
    | some d => d :: translated rest
    | none => '\\' :: c :: translated rest
  | c :: rest => c :: translated rest
  | [] => []

/-- Read a translation of characters. -/
def translation : Step Action := do
  let unterminated : Step Action := flaw "unterminated \x60y' command"
  match ← take with
  | none => unterminated
  | some delimiter =>
    match ← delimited delimiter false with
    | none => unterminated
    | some first =>
      match ← delimited delimiter false with
      | none => unterminated
      | some second =>
        let (first, second) := (translated first, translated second)
        if first.length ≠ second.length then
          flaw "strings for \x60y' command are different lengths"
        else
          endOfCommand
          pure (.translate (first.zip second))

/-- Read a number that a command may have. -/
def numberArgument : Step (Option Nat) := do
  let c ← takeFilled
  let n ← if c.any Char.isDigit then some <$> number c
    else do
      putBack c
      pure none
  endOfCommand
  pure n

/-- Read a command by its letter. -/
def action (extended : Bool) (selection : Selection) (c : Char) : Step Action := do
  let plain (a : Action) : Step Action := do
    endOfCommand
    pure a
  match c with
  | '\x7b' =>
    modify fun s => { s with depth := s.depth + 1 }
    pure .open_
  | '\x7d' =>
    if (← get).depth = 0 then flaw "unexpected \x60\x7d'"
    else if selection.first.isSome then flaw "\x7d doesn't want any addresses"
    else
      modify fun s => { s with depth := s.depth - 1 }
      plain .close
  | 'a' => do pure (.append (← addedText))
  | 'i' => do pure (.insert (← addedText))
  | 'c' => do pure (.change (← addedText))
  | ':' =>
    if selection.first.isSome then flaw ": doesn't want any addresses"
    else
      let _ ← takeWhile isBlank
      let name ← takeWhile fun c => c ≠ ';' && !CharClass.isSpace c
      if name.isEmpty then flaw "\":\" lacks a label"
      else
        modify fun s => { s with labels := (String.ofList name, s.commands.length) :: s.labels }
        pure .nothing
  | 'b' => do pure (.branch (← label))
  | 't' => do pure (.branchIf true (← label))
  | 'T' => do pure (.branchIf false (← label))
  | 'd' => plain .delete
  | 'D' => plain .deleteLine
  | 'g' => plain .getHold
  | 'G' => plain .appendHold
  | 'h' => plain .hold
  | 'H' => plain .holdMore
  | 'x' => plain .exchange
  | 'l' | 'L' => do pure (.show (← numberArgument))
  | '=' => plain .number
  | 'F' => plain .fileName
  | 'n' => plain .next
  | 'N' => plain .appendNext
  | 'p' => plain .print
  | 'P' => plain .printLine
  | 'q' | 'Q' =>
    if selection.last.isSome then flaw "command only uses one address"
    else
      let status ← numberArgument
      pure (.quit (c = 'q') (status.getD 0))
  | 'r' => do pure (.readFile (← fileName))
  | 'R' => do pure (.readLine (← fileName))
  | 'w' => do pure (.write false (← fileName))
  | 'W' => do pure (.write true (← fileName))
  | 's' => substitution extended
  | 'y' => translation
  | 'z' => plain .clear
  | 'v' =>
    let name ← label
    if ((name.toList.headD '4').toNat - '0'.toNat) > 4 then flaw "expected newer version of sed"
    else pure .nothing
  | c => flaw ("unknown command: \x60" ++ String.singleton c ++ "'")

/-- Whether an address is the line before the first one. -/
def isZero : Address → Bool
  | .number n => n = 0
  | _ => false

/-- Read which lines a command is for, with the character behind that. -/
def selection (extended : Bool) (first : Option Char) : Step (Selection × Option Char) := do
  let (s, c) : Selection × Option Char ← match ← address? extended first with
    | none => pure (⟨none, none, false⟩, first)
    | some (.after _) | some (.multiple _) => flaw "invalid usage of +N or ~N as first address"
    | some (.at_ address) =>
      let c ← takeFilled
      let (last, c) : Option RangeEnd × Option Char ←
        if c = some ',' then
          match ← address? extended (← takeFilled) with
          | none => flaw "unexpected \x60,'"
          | some last => do pure (some last, ← takeFilled)
        else pure (none, c)
      let isMatch := match last with
        | some (.at_ (.matching _)) => true
        | _ => false
      if isZero address && !isMatch then flaw "invalid usage of line address 0"
      else pure (⟨some address, last, false⟩, c)
  if c = some '!' then
    let c ← takeFilled
    if c = some '!' then flaw "multiple \x60!'s"
    else pure ({ s with negated := true }, c)
  else pure (s, c)

/-- Read commands. Each step takes a character, so `fuel` is the length of the script. -/
def commands (extended : Bool) : Nat → Step Unit
  | 0 => pure ()
  | fuel + 1 => do
    let _ ← takeWhile fun c => c = ';' || CharClass.isSpace c
    match ← take with
    | none => pure ()
    | first =>
      let (s, c) ← selection extended first
      match c with
      | none => flaw "missing command"
      | some '#' =>
        if s.first.isSome then flaw "comments don't accept any addresses"
        else
          let _ ← takeWhile (· ≠ '\n')
          commands extended fuel
      | some c =>
        let a ← action extended s c
        modify fun r => { r with commands := ⟨s, a⟩ :: r.commands }
        commands extended fuel

/-- Read the parts of a script, each with the words that tell where a fault of it is. -/
def read (extended : Bool) (parts : List (List Char × (Fault → String))) : Except String Script := do
  let start : Reading := ⟨[], 0, 1, [], [], 0⟩
  let s ← parts.foldlM (fun (s : Reading) (text, place) =>
    match (commands extended (text.length + 1)).run { s with rest := text, count := 0, line := 1 } with
    | .ok (_, s) => .ok s
    | .error fault => .error (if fault.isBare then fault.words else place fault ++ fault.words)) start
  if s.depth ≠ 0 then
    match parts.getLast? with
    | some (_, place) => .error (place ⟨"", 0, 0, false⟩ ++ "unmatched \x60\x7b'")
    | none => .error "unmatched \x60\x7b'"
  else
    let isQuiet := match parts.head? with
      | some ('#' :: 'n' :: rest, _) => rest.isEmpty || rest.head? = some '\n'
      | _ => false
    .ok ⟨s.commands.reverse, s.labels, isQuiet⟩

end CSharpBuild.Machine.Tool.Sed
