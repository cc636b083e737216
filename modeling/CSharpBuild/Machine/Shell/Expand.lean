/-
Expanding words: parameters, the output of scripts, arithmetic and the home directory. What a word
expands to is divided into fields, or not, by whoever needs it (`Shell.fields`, `Shell.text`).

A word may hold a script, whose output these functions get from `output`.
-/
import CSharpBuild.Machine.Arithmetic
import CSharpBuild.Machine.Shell.State

namespace CSharpBuild.Machine.Shell

/-! ## The home directory -/

/-- The home directories of users. -/
def homes : List (String × String) :=
  [("root", "/root"), ("daemon", "/usr/sbin"), ("bin", "/bin"), ("sys", "/dev"), ("sync", "/bin"),
    ("games", "/usr/games"), ("man", "/var/cache/man"), ("lp", "/var/spool/lpd"),
    ("mail", "/var/mail"), ("news", "/var/spool/news"), ("uucp", "/var/spool/uucp"),
    ("proxy", "/bin"), ("www-data", "/var/www"), ("backup", "/var/backups"),
    ("list", "/var/list"), ("nobody", "/nonexistent"), ("_apt", "/nonexistent")]

/-- The home directory that is meant by a name behind a tilde. -/
def home? (s : Shell) (name : String) : Option String :=
  if name.isEmpty then s.valueOf? "HOME" else homes.lookup name

/-- Put the home directory in the place of a tilde in front of a text. `isLast` says that the text
ends a word, and `colons` that a colon ends the name of a user. -/
def tildeIn (s : Shell) (isLast colons : Bool) (text : String) : Word :=
  match text.toList with
  | '~' :: rest =>
    let name := rest.takeWhile fun c => c ≠ '/' && !(colons && c = ':')
    let after := rest.drop name.length
    let ends := isLast || !after.isEmpty
    match if ends then s.home? (String.ofList name) else none with
    | some home =>
      (if home.isEmpty then [] else [Piece.text true home])
        ++ (if after.isEmpty then [] else [.text false (String.ofList after)])
    | none => [.text false text]
  | _ => [.text false text]

/-- Put the home directory in the place of a tilde in front of a word. -/
def tilde (s : Shell) (word : Word) : Word :=
  match word with
  | .text false text :: rest => s.tildeIn rest.isEmpty false text ++ rest
  | word => word

/-- Divide a text behind each of its colons. -/
def afterColons (text : List Char) : List (List Char) :=
  match text.splitOn ':' with
  | [] => []
  | parts => (parts.dropLast.map (· ++ [':'])) ++ parts.getLast?.toList

/-- Put the home directory in the place of tildes in a value: in front of it, and behind colons. -/
def tildesInText (s : Shell) (front isLast : Bool) (text : String) : Word :=
  let parts := afterColons text.toList
  let count := parts.length
  parts.zipIdx.flatMap fun (part, index) =>
    let text := String.ofList part
    let isLast := isLast && index + 1 = count
    let ends := isLast || part.getLast? = some ':'
    if index = 0 && !front then [.text false text]
    else if part.getLast? = some ':' then
      s.tildeIn ends true (String.ofList part.dropLast ++ ":")
    else s.tildeIn isLast true text

/-- Put the home directory in the place of tildes in a value. -/
def tildes (s : Shell) (front : Bool) : Word → Word
  | [] => []
  | .text false text :: rest => s.tildesInText front rest.isEmpty text ++ s.tildes false rest
  | piece :: rest => piece :: s.tildes false rest

/-! ## Parameters -/

/-- How a word is expanded. -/
structure Manner where
  /-- Whether the word will be divided into fields. -/
  divided : Bool
  /-- Whether the word is the operand of a parameter. -/
  operand : Bool

/-- A text that an expansion has brought about. -/
def brought (divided quoted : Bool) (text : String) : List Bit :=
  if divided && !quoted then [.loose [text]]
  else if text.isEmpty then []
  else [.fixed quoted text]

/-- Whether a name stands for all arguments. -/
def isAll (name : String) : Bool := name = "@" || name = "*"

/-- All arguments, one way or the other. -/
def allArguments (s : Shell) (divided quoted : Bool) (name : String) : List Bit :=
  if divided && quoted && name = "@" then
    if s.arguments.isEmpty then [] else [.apart s.arguments]
  else if divided && !quoted then [.loose s.arguments]
  else brought false quoted (s.joiner.intercalate s.arguments)

/-- The value of a parameter, as parts of a word. -/
def value? (s : Shell) (divided quoted : Bool) (name : String) : Option (List Bit) :=
  if isAll name then some (s.allArguments divided quoted name)
  else (s.parameter? name).map (brought divided quoted)

/-- The length of a parameter. -/
def lengthOf (s : Shell) (divided quoted : Bool) (name : String) : Nat :=
  if isAll name then
    let separated := divided && !(quoted && name = "*") || !s.joiner.isEmpty
    (s.arguments.map String.length).foldl (· + ·) 0
      + (if separated then s.arguments.length - 1 else 0)
  else ((s.parameter? name).getD "").length

/-- Whether a parameter has a value, one that is not empty if that counts. -/
def isGiven (s : Shell) (orEmpty : Bool) (name : String) : Bool :=
  if isAll name then !orEmpty || s.lengthOf true false name ≠ 0
  else
    match s.parameter? name with
    | some value => !orEmpty || !value.isEmpty
    | none => false

/-- The words for a parameter without a value. -/
def notSet (orEmpty : Bool) : String := "parameter not set" ++ (if orEmpty then " or null" else "")

/-- Take what a pattern stands for off the value of a parameter. -/
def trimmed (s : Shell) (divided quoted : Bool) (name : String) (pattern : Pattern)
    (front long : Bool) : List Bit :=
  let trim (text : String) : String := String.ofList (pattern.trim front long text.toList)
  if isAll name then
    let count := s.arguments.length
    let arguments := s.arguments.zipIdx.map fun (text, index) =>
      if index = (if front then 0 else count - 1) then trim text else text
    { s with arguments := arguments }.allArguments divided quoted name
  else brought divided quoted (trim ((s.parameter? name).getD ""))

/-! ## Words -/

/-- Compute the value of an expression, and set the variables that it sets. -/
def compute (expression : String) : Act Int := do
  match Arithmetic.evaluate (← get).valueOf? expression with
  | .error fault => fail (fault.words expression)
  | .ok (n, changes) =>
    changes.reverse.forM fun (name, value) => assign name (toString value)
    pure n

mutual

/-- Expand the pieces of a word. Each piece that holds others goes down one step. -/
def pieces (output : Script → Act String) : Nat → Manner → Word → Act (List Bit)
  | 0, _, _ => pure []
  | fuel + 1, manner, word =>
    word.foldlM (fun bits piece => do pure (bits ++ (← expandPiece output fuel manner piece))) []

/-- Expand one piece. -/
def expandPiece (output : Script → Act String) : Nat → Manner → Piece → Act (List Bit)
  | 0, _, _ => pure []
  | fuel + 1, manner, piece => do
    match piece with
    | .text quoted text =>
      if manner.operand && manner.divided && !quoted then pure [.loose [text]]
      else pure [.fixed quoted text]
    | .parameter quoted name change => parameter output fuel manner.divided quoted name change
    | .output quoted body => do pure (brought manner.divided quoted (← output body))
    | .number quoted expression =>
      let bits ← pieces output fuel ⟨false, false⟩ expression
      let n ← compute (Bit.plain bits)
      pure (brought manner.divided quoted (toString n))

/-- Expand a parameter. -/
def parameter (output : Script → Act String) : Nat → Bool → Bool → String → Change →
    Act (List Bit)
  | 0, _, _, _, _ => pure []
  | fuel + 1, divided, quoted, name, change => do
    let s ← get
    let value := (s.value? divided quoted name).getD []
    let operandBits (divided : Bool) (operand : Word) : Act (List Bit) :=
      pieces output fuel ⟨divided, true⟩ (s.tilde operand)
    let checkSet : Act Unit :=
      if s.has 'u' && !isAll name && (s.parameter? name).isNone then
        fail (name ++ ": " ++ notSet false)
      else pure ()
    match change with
    | .none => do
      checkSet
      pure value
    | .length => do
      checkSet
      pure (brought divided quoted (toString (s.lengthOf divided quoted name)))
    | .trim front long operand => do
      checkSet
      let bits ← operandBits false operand
      if (s.value? divided quoted name).isNone then pure []
      else
        let pattern := Pattern.ofMarks (bits.flatMap Bit.marks)
        pure ((← get).trimmed divided quoted name pattern front long)
    | .unknown => fail "Bad substitution"
    | .substitute how orEmpty operand =>
      let given := s.isGiven orEmpty name
      match how with
      | .fallback => if given then pure value else operandBits divided operand
      | .instead => if given then operandBits divided operand else pure []
      | .assign =>
        if given then pure value
        else
          let text := Bit.plain (← operandBits false operand)
          if !Script.isName name then fail (name ++ ": bad variable name")
          assign name text
          pure (((← get).value? divided quoted name).getD [])
      | .demand =>
        if given then pure value
        else if operand.isEmpty then fail (name ++ ": " ++ notSet orEmpty)
        else fail (name ++ ": " ++ Bit.plain (← operandBits false operand))

end

/-- How deep words may nest. -/
def wordDepth : Nat := 1000

/-- Expand a word that is not divided. -/
def undivided (output : Script → Act String) (word : Word) : Act (List Bit) := do
  pieces output wordDepth ⟨false, false⟩ ((← get).tilde word)

/-- The text of a word that is not divided. -/
def text (output : Script → Act String) (word : Word) : Act String := do
  pure (Bit.plain (← undivided output word))

/-- The text of a document. -/
def documentText (output : Script → Act String) (word : Word) : Act String := do
  pure (Bit.plain (← pieces output wordDepth ⟨false, false⟩ word))

/-- The value that an assignment gives. -/
def assigned (output : Script → Act String) (word : Word) : Act String := do
  pure (Bit.plain (← pieces output wordDepth ⟨false, false⟩ ((← get).tildes true word)))

/-- The pattern that a word writes. -/
def pattern (output : Script → Act String) (word : Word) : Act Pattern := do
  pure (Pattern.ofMarks ((← undivided output word).flatMap Bit.marks))

/-- The fields of a word. -/
def fieldsOf (output : Script → Act String) (word : Word) : Act (List String) := do
  let bits ← pieces output wordDepth ⟨true, false⟩ ((← get).tilde word)
  let s ← get
  let fields := Fields.split s.separators none bits
  if s.has 'f' then pure (fields.map Mark.text)
  else pure (fields.flatMap (Fields.names s.world.disk s.cwd))

/-- The fields of some words. -/
def fields (output : Script → Act String) (words : List Word) : Act (List String) := do
  pure (← words.mapM (fieldsOf output)).flatten

/-- The argument that a word is to a command that sets variables: a word that looks like an
assignment is treated as one. -/
def settingFields (output : Script → Act String) (word : Word) : Act (List String) := do
  let isAssignment : Bool :=
    match word with
    | .text false text :: _ =>
      let name := text.toList.takeWhile (· ≠ '=')
      name.length < text.length && Script.isName (String.ofList name)
    | _ => false
  match word with
  | .text false text :: rest =>
    if isAssignment then
      let name := text.toList.takeWhile (· ≠ '=')
      let first := String.ofList (text.toList.drop (name.length + 1))
      let value ← assigned output ((if first.isEmpty then [] else [.text false first]) ++ rest)
      pure [String.ofList name ++ "=" ++ value]
    else fieldsOf output word
  | _ => fieldsOf output word

end CSharpBuild.Machine.Shell
