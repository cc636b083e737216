/-
Tools: the small programs of a machine that only look at their arguments, their input and the disk.
A tool leaves a status, what it has written to its streams, and the disk as it is then.
-/
import CSharpBuild.Machine.Disk
import CSharpBuild.Machine.Tool.Quoting
import CSharpBuild.Text.Numeral

namespace CSharpBuild.Machine

/-- What a tool is called with. -/
structure Call where
  /-- What the tool calls itself. -/
  name : String
  args : List String
  environment : List (String × String)
  disk : Disk
  cwd : Place
  input : List Char
  /-- Whether the input is a file. -/
  fromFile : Bool

/-- What a tool leaves. -/
structure Effect where
  status : Nat
  /-- What was written, each text with its stream. -/
  written : List (Nat × String)
  disk : Disk
  /-- How much of the input was taken. -/
  taken : Nat
  /-- How long it took, in thousandths of a second. -/
  lasted : Nat

/-- A tool. -/
abbrev Tool := Call → Effect

namespace Effect

/-- Nothing at all. -/
def nothing (c : Call) : Effect := ⟨0, [], c.disk, 0, 0⟩

/-- Write to the output, after what was written before. -/
def out (e : Effect) (text : String) : Effect :=
  if text.isEmpty then e else { e with written := e.written ++ [(1, text)] }

/-- Write a line to the output. -/
def line (e : Effect) (text : String) : Effect := e.out (text ++ "\n")

/-- Complain under a name, and leave a status. -/
def complain (e : Effect) (name : String) (status : Nat) (text : String) : Effect :=
  { e with status := status, written := e.written ++ [(2, name ++ ": " ++ text ++ "\n")] }

/-- Complaints before the rest: programs keep what they write until they are done. -/
def held (e : Effect) : Effect :=
  { e with written := e.written.filter (·.1 = 2) ++ e.written.filter (·.1 ≠ 2) }

/-- Take all of the input. -/
def takeAll (e : Effect) (c : Call) : Effect := { e with taken := c.input.length }

end Effect

namespace Tool

/-- Leave a status and nothing else. -/
def ends (status : Nat) : Tool := fun c => { Effect.nothing c with status := status }

/-- Leave output. -/
def writes (text : Call → String) : Tool := fun c => (Effect.nothing c).out (text c)

/-- Complain and do nothing. -/
def refuses (status : Nat) (text : String) : Tool := fun c =>
  (Effect.nothing c).complain c.name status text

/-- Where to find out how a tool is used. -/
def hint (c : Call) : String := "Try '" ++ c.name ++ " --help' for more information."

/-- Complain about the way in which a tool is used, and do nothing. -/
def misused (status : Nat) (text : String) : Tool := fun c =>
  let e := (Effect.nothing c).complain c.name status text
  { e with written := e.written ++ [(2, hint c ++ "\n")] }

/-! ## Options -/

/-- An option that was given, with its argument if it takes one. -/
abbrev Given := Char × String

/-- What is wrong with the arguments of a tool. -/
inductive Misuse where
  | unknown (letter : Char)
  | unknownWord (word : String)
  | lacksArgument (letter : Char)
  | wordLacksArgument (word : String)
  | takesNoArgument (word : String)
  deriving Repr, DecidableEq

/-- What is said of a misuse. -/
def Misuse.words : Misuse → String
  | .unknown letter => "invalid option -- '" ++ String.singleton letter ++ "'"
  | .unknownWord word => "unrecognized option '" ++ word ++ "'"
  | .lacksArgument letter => "option requires an argument -- '" ++ String.singleton letter ++ "'"
  | .wordLacksArgument word => "option '--" ++ word ++ "' requires an argument"
  | .takesNoArgument word => "option '--" ++ word ++ "' doesn't allow an argument"

/-- Which options a tool has. -/
structure Options where
  /-- The letters of options; those before a colon take an argument. -/
  letters : String
  /-- Words that stand for a letter. -/
  words : List (String × Char)
  /-- Letters of which the words may have an argument behind an equals sign. -/
  mayTake : List Char
  /-- Whether options may come behind operands. -/
  anywhere : Bool

/-- What the arguments of a tool say. -/
structure Arguments where
  given : List Given
  operands : List String

namespace Arguments

/-- Whether an option was given. -/
def has (a : Arguments) (letter : Char) : Bool := a.given.any fun g => g.1 = letter

/-- The argument of an option, the last one if it was given more than once. -/
def value? (a : Arguments) (letter : Char) : Option String :=
  (a.given.reverse.find? fun g => g.1 = letter).map Prod.snd

/-- The arguments of an option that was given more than once. -/
def values (a : Arguments) (letter : Char) : List String :=
  (a.given.filter fun g => g.1 = letter).map Prod.snd

/-- Which of some options was given last. -/
def last? (a : Arguments) (letters : List Char) : Option Char :=
  (a.given.reverse.find? fun g => letters.contains g.1).map Prod.fst

end Arguments

/-- Whether an option takes an argument. -/
def Options.takesArgument? (o : Options) (letter : Char) : Option Bool :=
  match o.letters.toList.dropWhile (· ≠ letter) with
  | _ :: ':' :: _ => some true
  | _ :: _ => some false
  | [] => none

/-- The word of an option, which may be cut short. -/
def Options.word? (o : Options) (word : String) : Option (String × Char) :=
  match o.words.lookup word with
  | some letter => some (word, letter)
  | none =>
    match o.words.filter fun (name, _) => word.toList.isPrefixOf name.toList with
    | [found] => some found
    | _ => none

/-- Read arguments. The letters of the argument that is being read come first. Each step takes a
character, so `fuel` is the size of the arguments. -/
def readWithin (o : Options) : Nat → List Char → List String → Except Misuse Arguments
  | 0, _, args => .ok ⟨[], args⟩
  | fuel + 1, [], args =>
    match args with
    | [] => .ok ⟨[], []⟩
    | arg :: rest =>
      match arg.toList with
      | ['-', '-'] => .ok ⟨[], rest⟩
      | '-' :: '-' :: word =>
        let name := String.ofList (word.takeWhile (· ≠ '='))
        let value := word.drop (name.length + 1)
        let given (letter : Char) (value : String) (rest : List String) :
            Except Misuse Arguments := do
          let more ← readWithin o fuel [] rest
          .ok { more with given := (letter, value) :: more.given }
        match o.word? name with
        | none => .error (.unknownWord ("--" ++ name))
        | some (name, letter) =>
          let takesArgument := o.takesArgument? letter = some true
          if word.contains '=' then
            if takesArgument || o.mayTake.contains letter then
              given letter (String.ofList value) rest
            else .error (.takesNoArgument name)
          else if takesArgument then
            match rest with
            | value :: rest => given letter value rest
            | [] => .error (.wordLacksArgument name)
          else given letter "" rest
      | '-' :: c :: more =>
        if o.letters.toList.head? = some '0' && c.isDigit then do
          let more ← readWithin o fuel [] rest
          .ok { more with given := ('0', (arg.drop 1).toString) :: more.given }
        else readWithin o fuel (c :: more) rest
      | _ =>
        if o.anywhere then do
          let more ← readWithin o fuel [] rest
          .ok { more with operands := arg :: more.operands }
        else .ok ⟨[], args⟩
  | fuel + 1, c :: more, args =>
    match o.takesArgument? c with
    | none => .error (.unknown c)
    | some false => do
      let rest ← readWithin o fuel more args
      .ok { rest with given := (c, "") :: rest.given }
    | some true =>
      match more, args with
      | [], [] => .error (.lacksArgument c)
      | [], value :: rest => do
        let rest ← readWithin o fuel [] rest
        .ok { rest with given := (c, value) :: rest.given }
      | more, args => do
        let rest ← readWithin o fuel [] args
        .ok { rest with given := (c, String.ofList more) :: rest.given }

/-- Read arguments. -/
def Options.read (o : Options) (args : List String) : Except Misuse Arguments :=
  readWithin o ((args.map fun arg => arg.length + 1).foldl (· + ·) 0 + 1) [] args

/-- A tool with options. A misuse of it leaves a status. -/
def withOptions (o : Options) (status : Nat) (tool : Arguments → Tool) : Tool := fun c =>
  match o.read c.args with
  | .ok arguments => tool arguments c
  | .error misuse => misused status misuse.words c

/-- Options with letters only. -/
def lettersOnly (letters : String) (anywhere : Bool) : Options := ⟨letters, [], [], anywhere⟩

/-- A tool that does not take more than some operands, nor less. -/
def withOperands (o : Options) (least : Nat) (most : Option Nat) (tool : Arguments → Tool) : Tool :=
  withOptions o 1 fun a c =>
    if a.operands.length < least then
      match a.operands.getLast? with
      | some last => misused 1 ("missing operand after " ++ quoted last) c
      | none => misused 1 "missing operand" c
    else
      match most.bind fun most => a.operands[most]? with
      | some extra => misused 1 ("extra operand " ++ quoted extra) c
      | none => tool a c

/-! ## Reading files -/

/-- Whether an operand is the input. -/
def isInput (c : Call) (path : String) : Bool :=
  path = "-" || (c.disk.find c.cwd path) matches .ok (.stream 0)

/-- The content of an operand: a file, or what is left of the input for `-`. -/
def contentOf (c : Call) (e : Effect) (path : String) : Except Trouble String :=
  if isInput c path then .ok (String.ofList (c.input.drop e.taken))
  else e.disk.read c.cwd path

/-- The lines of a text, without their ends, and whether the last one has none. -/
def lines (text : String) : List String × Bool :=
  let all := text.toList.splitOn '\n'
  match all.getLast? with
  | some [] => ((all.dropLast).map String.ofList, false)
  | some _ => (all.map String.ofList, true)
  | none => ([], false)

/-- Lines with their ends. -/
def unlines (lines : List String) : String := String.join (lines.map (· ++ "\n"))

/-- Do something with each operand and its content in turn, or with the input if there are none.
What cannot be read is complained about. -/
def forContents (c : Call) (operands : List String) (complaint : String → Trouble → String)
    (e : Effect) (act : Effect → String → String → Effect) : Effect :=
  let operands := if operands.isEmpty then ["-"] else operands
  operands.foldl (fun e path =>
    match contentOf c e path with
    | .ok content => act (if isInput c path then e.takeAll c else e) path content
    | .error trouble => e.complain c.name 1 (complaint path trouble)) e

/-- Read the operands one after the other, or the input if there are none. -/
def readAll (c : Call) (operands : List String) (complaint : String → Trouble → String) :
    List (String × String) × Effect :=
  let operands := if operands.isEmpty then ["-"] else operands
  operands.foldl (fun (contents, e) path =>
    match contentOf c e path with
    | .ok content =>
      (contents ++ [(path, content)], if isInput c path then e.takeAll c else e)
    | .error trouble => (contents, e.complain c.name 1 (complaint path trouble)))
    ([], Effect.nothing c)

/-- The usual complaint about a file. -/
def plainComplaint (path : String) (trouble : Trouble) : String :=
  shown path ++ ": " ++ trouble.words

/-- How often a unit of counting stands for one. -/
def unitOf? (unit : String) : Option Nat :=
  match unit with
  | "" => some 1
  | "b" => some 512
  | _ =>
    let letters := "KMGTPE".toList
    let base? : Option Nat :=
      match unit.toList.tail with
      | [] | ['i', 'B'] => some 1024
      | ['B'] => some 1000
      | _ => none
    match unit.toList.head?, base? with
    | some c, some base =>
      (letters.findIdx? (· = (if c = 'k' then 'K' else c))).map fun i => Nat.pow base (i + 1)
    | _, _ => none

/-- A count, perhaps in units. -/
def count? (text : String) : Option Nat :=
  let digits := text.toList.takeWhile Char.isDigit
  if digits.isEmpty then none
  else (unitOf? (text.drop digits.length).toString).map fun unit =>
    Text.Numeral.ofDigits 10 digits * unit

end Tool

end CSharpBuild.Machine
