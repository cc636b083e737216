/-
The program that makes commands of what it reads: items are put behind a command, some at a time, or
in place of a mark in it.
-/
import CSharpBuild.Machine.Launching.Wrapper

namespace CSharpBuild.Machine.Launching

open Tool

/-- A quote that is not closed, by its name. -/
abbrev OpenQuote := String

/-- An item as it was read, and whether it ended its line. -/
structure Item where
  text : String
  endsLine : Bool
  deriving Repr, DecidableEq

/-- The state of reading items. -/
structure ItemReading where
  items : List Item
  /-- The item that is being read, in reverse order. -/
  word : Option (List Char)
  quote : Option Char
  escaped : Bool

/-- Read a character. Where whole lines are items, blanks do not end them. -/
def ItemReading.push (byLine : Bool) (r : ItemReading) (c : Char) : ItemReading :=
  let add (c : Char) : ItemReading := { r with word := some (c :: r.word.getD []), escaped := false }
  if r.escaped then add c
  else
    match r.quote with
    | some q => if c = q then { r with quote := none } else add c
    | none =>
      if c = '\\' then { r with escaped := true }
      else if c = '\'' || c = '"' then { r with quote := some c, word := some (r.word.getD []) }
      else if c = '\n' then
        match r.word with
        | some word =>
          { r with items := ⟨String.ofList word.reverse, true⟩ :: r.items, word := none }
        | none =>
          match r.items with
          | last :: rest => { r with items := ⟨last.text, true⟩ :: rest }
          | [] => r
      else if (c = ' ' || c = '\t') && !(byLine && r.word.isSome) then
        match r.word with
        | some word =>
          { r with items := ⟨String.ofList word.reverse, false⟩ :: r.items, word := none }
        | none => r
      else add c

/-- Read items with quotes. -/
def readItems (byLine : Bool) (text : List Char) : Except OpenQuote (List Item) :=
  let r := text.foldl (ItemReading.push byLine) ⟨[], none, none, false⟩
  match r.quote with
  | some q => .error (if q = '"' then "double" else "single")
  | none =>
    let last := r.word.map fun word => (⟨String.ofList word.reverse, true⟩ : Item)
    .ok (last.toList ++ r.items).reverse

/-- Items that end with a character. -/
def splitItems (ending : Char) (text : List Char) : List Item :=
  let all := text.splitOn ending
  let all := if all.getLast? = some [] then all.dropLast else all
  all.map fun item => ⟨String.ofList item, true⟩

/-- Put items together until so many lines have ended. -/
def byLines (count : Nat) (items : List Item) : List (List String) :=
  let step (state : List (List String) × List String × Nat) (i : Item) :
      List (List String) × List String × Nat :=
    let (batches, batch, ended) := state
    let batch := i.text :: batch
    let ended := if i.endsLine then ended + 1 else ended
    if ended = count then (batch.reverse :: batches, [], 0) else (batches, batch, ended)
  let (batches, batch, _) := items.foldl step ([], [], 0)
  ((if batch.isEmpty then [] else [batch.reverse]) ++ batches).reverse

/-- Put items together as long as they fit in a number and in a size. -/
def bySize (count : Option Nat) (room : Nat) (items : List String) : List (List String) :=
  let step (state : List (List String) × List String × Nat) (item : String) :
      List (List String) × List String × Nat :=
    let (batches, batch, used) := state
    let size := item.length + 1
    if !batch.isEmpty && (count.any (· ≤ batch.length) || room < used + size) then
      (batch.reverse :: batches, [item], size)
    else (batches, item :: batch, used + size)
  let (batches, batch, _) := items.foldl step ([], [], 0)
  ((if batch.isEmpty then [] else [batch.reverse]) ++ batches).reverse

/-- Put a text in place of each mark in another. -/
def replaceMark (mark item text : String) : String :=
  if mark.isEmpty then text else text.replace mark item

/-- The course of running commands one after the other. -/
def batches (c : Call) (shows : Bool) (worst : Nat) : List (List String) → Course
  | [] => .done worst
  | command :: rest =>
    let name := command.headD ""
    let say (text : String) (next : Course) : Course := .write 2 (c.name ++ ": " ++ text ++ "\n") next
    let run : Course := .run command fun
      | .error refusal =>
        say (name ++ ": " ++ Course.reason refusal) (.done (Course.refusedStatus refusal))
      | .ok (.killed signal) =>
        say (name ++ ": terminated by signal " ++ toString signal) (.done 125)
      | .ok (.exited 255) => say (name ++ ": exited with status 255; aborting") (.done 124)
      | .ok (.exited status) => batches c shows (if status = 0 then worst else 123) rest
    if shows then .write 2 (" ".intercalate (command.map shown) ++ "\n") run else run

/-- Make commands of what is read. -/
def xargs (c : Call) : Launching :=
  let options : Options := ⟨"0a:d:E:I:L:n:P:prs:tx1:2:", [("null", '0'), ("arg-file", 'a'),
    ("delimiter", 'd'), ("max-lines", 'L'), ("max-args", 'n'), ("max-procs", 'P'),
    ("no-run-if-empty", 'r'), ("verbose", 't'), ("replace", 'I'), ("max-chars", 's')], [], false⟩
  let args := c.args.map fun arg =>
    if arg = "-i" || arg = "--replace" then "-I\x7b\x7d"
    else if arg = "-0" || arg = "--null" then "-d\\0" else arg
  withOptions options 1 (fun a c =>
    let number (letter : Char) (least : Nat) : Except (Bool × String) (Option Nat) :=
      match a.value? letter with
      | none => .ok none
      | some text =>
        match text.toInt? with
        | none => .error (true, "invalid number \"" ++ text ++ "\" for -" ++ String.singleton letter
          ++ " option")
        | some n =>
          if n < least then .error (true, "value " ++ text ++ " for -" ++ String.singleton letter
            ++ " option should be >= " ++ toString least)
          else .ok (some n.toNat)
    let mark := if a.last? ['I', 'n', 'L'] = some 'I' then a.value? 'I' else none
    let input : Except (Bool × String) (List Char × Nat) :=
      match a.value? 'a' with
      | none => .ok (c.input, c.input.length)
      | some path =>
        match c.disk.read c.cwd path with
        | .ok text => .ok (text.toList, 0)
        | .error trouble =>
          .error (false, "Cannot open input file " ++ quoted path ++ ": " ++ trouble.words)
    let prepared : Except (Bool × String) (List (List String) × Nat) := do
      let count ← number 'n' 1
      let lines ← number 'L' 1
      let room ← number 's' 1
      let (text, taken) ← input
      let items ← match a.value? 'd' with
        | some delimiter =>
          let chars := (Escape.expand true delimiter.toList).1
          pure (splitItems (chars.headD '\x00') text)
        | none =>
          match readItems mark.isSome text with
          | .ok items => pure items
          | .error quote =>
            throw (false, "unmatched " ++ quote ++ " quote; by default quotes are special to xargs"
              ++ " unless you use the -0 option")
      let items := match a.value? 'E' with
        | some last => items.takeWhile fun i => i.text ≠ last
        | none => items
      let command := if a.operands.isEmpty then ["echo"] else a.operands
      let texts := items.map Item.text
      let commands := match mark, lines with
        | some mark, _ => texts.map fun item =>
          command.head?.toList ++ command.tail.map (replaceMark mark item)
        | none, some lines => (byLines lines items).map (command ++ ·)
        | none, none =>
          let used := (command.map fun word => word.length + 1).foldl (· + ·) 0
          (bySize count ((room.getD 131072) - used) texts).map (command ++ ·)
      let commands := if items.isEmpty && mark.isNone && !a.has 'r' then [command] else commands
      pure (commands, taken)
    match prepared with
    | .error (true, text) => ofEffect c (misused 1 text c)
    | .error (false, text) => ofEffect c ((refuses 1 text c).takeAll c)
    | .ok (commands, taken) =>
      { become c [] (fun _ => "") with
        course := batches c (a.has 't') 0 commands
        taken := taken
        replaced := false
        sharesInput := (a.value? 'a').isSome }) { c with args := args }

end CSharpBuild.Machine.Launching
