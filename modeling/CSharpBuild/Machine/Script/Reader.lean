/-
Reading scripts of the shell, one complete command after the other (`Script.next?`). A flaw is found
where it stands, so that what comes before it can still run.

The readers call each other, because a word may hold a script. Each call goes down one of the few
levels of the grammar or takes a character, so a multiple of the length of the text is fuel enough.
-/
import CSharpBuild.Machine.Script.Token

namespace CSharpBuild.Machine.Script

open Reading

/-- Where pieces of a word stand, which says what ends them and what is special among them. -/
inductive Setting where
  /-- A word, up to a delimiter. -/
  | word
  /-- The word that ends a document. -/
  | delimiter
  /-- The operand of a parameter, up to a closing brace. -/
  | operand
  /-- The same inside double quotes. `quoting` says that quotes inside are open, and `document` that
  the whole is not in quotes but in a document. -/
  | quotedOperand (document quoting : Bool)
  /-- Between double quotes. -/
  | quoted
  /-- A document. -/
  | document
  /-- An expression, with parentheses that are open in it. -/
  | expression (depth : Nat)
  deriving Repr, DecidableEq

namespace Setting

/-- Whether everything is quoted. -/
def isQuoted : Setting → Bool
  | .word | .delimiter | .operand => false
  | .quotedOperand .. | .quoted | .document | .expression _ => true

/-- Whether the text is part of a document. -/
def inDocument : Setting → Bool
  | .document | .quotedOperand true _ => true
  | _ => false

/-- The characters that a backslash takes the meaning from. -/
def escapes : Setting → Char → Bool
  | .quoted, c | .expression _, c => ['\\', '\x60', '$', '"'].contains c
  | .document, c => ['\\', '\x60', '$'].contains c
  | .quotedOperand .., c => ['\\', '\x60', '$', '"', '\x7d'].contains c
  | .word, _ | .delimiter, _ | .operand, _ => true

/-- What is wrong when the text ends here, if anything is. -/
def openFault? : Setting → Option Fault
  | .word | .delimiter | .document => none
  | .operand | .quotedOperand true _ => some .openBrace
  | .quotedOperand false _ | .quoted => some .openQuote
  | .expression _ => some .openExpression

end Setting

/-- Which list of commands is read. -/
inductive ListKind where
  /-- What stands on one line. -/
  | line
  /-- The body of a command, which is not empty. -/
  | body
  /-- What may be empty. -/
  | any
  deriving Repr, DecidableEq

/-- Add a character to the pieces read so far, the last of them first. -/
def addChar (quoted : Bool) (c : Char) : List Piece → List Piece
  | .text q text :: before =>
    if q = quoted then .text q (text.push c) :: before
    else .text quoted (String.singleton c) :: .text q text :: before
  | before => .text quoted (String.singleton c) :: before

/-- What a substitute's sign asks for. -/
def substitute? : Char → Option Substitute
  | '-' => some .fallback
  | '=' => some .assign
  | '?' => some .demand
  | '+' => some .instead
  | _ => none

/-- Split an assignment into its name and the value. -/
def assignment? (word : Word) : Option (String × Word) :=
  match word with
  | .text false text :: rest =>
    let name := text.toList.takeWhile inName
    match text.toList.drop name.length with
    | '=' :: value =>
      if isName (String.ofList name) then
        let start := if value = [] then [] else [Piece.text false (String.ofList value)]
        some (String.ofList name, start ++ rest)
      else none
    | _ => none
  | _ => none

/-- Take the text between single quotes, behind the first. -/
def singleQuoted : Reading String := do
  let text := (← get).rest.takeWhile (· ≠ '\'')
  let ends := text.count '\n'
  let after := (← get).rest.drop text.length
  modify fun s => { s with rest := after.drop 1, line := s.line + ends }
  if after.isEmpty then fail .openQuote
  pure (String.ofList text)

/-- Take the text of a command between backquotes, behind the first. -/
def backquoted (quoted : Bool) : Reading String := do
  let rec go : Nat → List Char → Reading (List Char)
    | 0, taken => pure taken
    | fuel + 1, taken => do
      match ← take with
      | none => fail .openBackquote
      | some '\x60' => pure taken
      | some '\\' =>
        match ← takeRaw with
        | none => fail .openBackquote
        | some c =>
          if ['\\', '\x60', '$'].contains c || (quoted && c = '"') then go fuel (c :: taken)
          else go fuel (c :: '\\' :: taken)
      | some c => go fuel (c :: taken)
  let chars ← go ((← get).rest.length + 1) []
  pure (String.ofList chars.reverse)

/-- The lines of a document up to its delimiter, and what is left. In a document that is not quoted
a backslash joins a line to the next, which is then no end. -/
def documentLines (a : Announcement) : Nat → Bool → List Char → List (List Char) × List Char
  | 0, _, text => ([], text)
  | _, _, [] => ([], [])
  | fuel + 1, joined, text =>
    let written := text.takeWhile (· ≠ '\n')
    let after := (text.drop written.length).drop 1
    let line := if a.stripped && !joined then written.dropWhile (· = '\t') else written
    if !joined && String.ofList line = a.delimiter then ([], after)
    else
      let joins := !a.quoted && (line.reverse.takeWhile (· = '\\')).length % 2 = 1
      let ended := text.length = written.length
      let (rest, left) := documentLines a fuel joins after
      ((if ended then line else line ++ ['\n']) :: rest, left)

namespace Grammar

mutual

/-- Read pieces up to where their setting ends. -/
def pieces : Nat → Setting → List Piece → Reading Word
  | 0, _, _ => fail .openQuote
  | fuel + 1, setting, before => do
    let quoted := setting.isQuoted
    let literally (c : Char) : Reading Word := do
      let _ ← take
      pieces fuel setting (addChar quoted c before)
    match ← peek with
    | none =>
      match setting.openFault? with
      | some fault => fail fault
      | none => pure before.reverse
    | some c =>
      if (setting = .word || setting = .delimiter) && isDelimiter c then pure before.reverse
      else if c = '\\' then
        let _ ← take
        match ← takeRaw with
        | none => pieces fuel setting (addChar true '\\' before)
        | some c =>
          let before := if setting.escapes c then before else addChar true '\\' before
          pieces fuel setting (addChar true c before)
      else if c = '$' && setting ≠ .delimiter then
        let _ ← take
        match ← dollar fuel setting with
        | some piece => pieces fuel setting (piece :: before)
        | none => pieces fuel setting (addChar quoted '$' before)
      else if c = '\x60' && setting ≠ .delimiter then
        let _ ← take
        let source ← backquoted quoted
        pieces fuel setting (.output quoted (← substituted fuel source) :: before)
      else
        match setting, c with
        | .word, '\'' | .delimiter, '\'' | .operand, '\'' => do
          let _ ← take
          pieces fuel setting (.text true (← singleQuoted) :: before)
        | .word, '"' | .delimiter, '"' | .operand, '"' => do
          let _ ← take
          let inside ← pieces fuel .quoted []
          match inside with
          | [.parameter true "@" .none] => pieces fuel setting (inside ++ before)
          | _ => pieces fuel setting (inside.reverse ++ .text true "" :: before)
        | .quoted, '"' => do
          let _ ← take
          pure before.reverse
        | .quotedOperand document quoting, '"' => do
          let _ ← take
          pieces fuel (.quotedOperand document !quoting) before
        | .expression _, '"' => do
          let _ ← take
          pieces fuel setting before
        | .operand, '\x7d' | .quotedOperand _ false, '\x7d' => do
          let _ ← take
          pure before.reverse
        | .expression depth, '(' => do
          let _ ← take
          pieces fuel (.expression (depth + 1)) (addChar true '(' before)
        | .expression 0, ')' => do
          let _ ← take
          if ← taken? ')' then pure before.reverse
          else pieces fuel setting (addChar true ')' before)
        | .expression (depth + 1), ')' => do
          let _ ← take
          pieces fuel (.expression depth) (addChar true ')' before)
        | _, c => literally c

/-- Read what follows a dollar sign, if it means something. -/
def dollar : Nat → Setting → Reading (Option Piece)
  | 0, _ => fail .openQuote
  | fuel + 1, setting => do
    let quoted := setting.isQuoted
    match ← peek with
    | some '(' =>
      let _ ← take
      if ← taken? '(' then
        pure (some (.number quoted (← pieces fuel (.expression 0) [])))
      else
        let outer ← get
        set { outer with pushed := none, due := [] }
        let body ← list fuel .any
        let closing ← token fuel false false false
        if !closing.isSign ")" then unexpected closing (some (.sign ")"))
        modify fun s => { s with pushed := outer.pushed, due := outer.due }
        pure (some (.output quoted body))
    | some '\x7b' =>
      let _ ← take
      some <$> braced fuel setting
    | some c =>
      if startsName c then
        pure (some (.parameter quoted (String.ofList (← takeWhile inName)) .none))
      else if isSpecial c then
        let _ ← take
        pure (some (.parameter quoted (String.singleton c) .none))
      else pure none
    | none => pure none

/-- Read what stands between the braces of a parameter, behind the first. -/
def braced : Nat → Setting → Reading Piece
  | 0, _ => fail .openBrace
  | fuel + 1, setting => do
    let quoted := setting.isQuoted
    let unknown : Reading Piece := do
      let _ ← pieces fuel (inner setting) []
      pure (.parameter quoted "" .unknown)
    let name? : Reading (Option String) := do
      match ← peek with
      | none => pure none
      | some c =>
        if startsName c then pure (some (String.ofList (← takeWhile inName)))
        else if c.isDigit then pure (some (String.ofList (← takeWhile Char.isDigit)))
        else if isSpecial c then
          let _ ← take
          pure (some (String.singleton c))
        else pure none
    if (← peek) = some '#' then
      let _ ← take
      let after := ((← get).rest.take 2)
      if after.head?.any (fun c => c.isAlphanum || c = '_') || after.tail = ['\x7d'] then
        match ← name? with
        | some name =>
          if ← taken? '\x7d' then pure (.parameter quoted name .length) else unknown
        | none => unknown
      else changed fuel setting "#"
    else
      match ← name? with
      | some name => changed fuel setting name
      | none => unknown
where
  /-- The setting of an operand that a substitute takes. -/
  inner (setting : Setting) : Setting :=
    if setting.isQuoted then .quotedOperand setting.inDocument false else .operand

/-- Read how a parameter is changed, behind its name. -/
def changed : Nat → Setting → String → Reading Piece
  | 0, _, _ => fail .openBrace
  | fuel + 1, setting, name => do
    let quoted := setting.isQuoted
    let inner : Setting :=
      if quoted then .quotedOperand setting.inDocument false else .operand
    let unknown : Reading Piece := do
      let _ ← pieces fuel inner []
      pure (.parameter quoted name .unknown)
    let substituted (how : Substitute) (orEmpty : Bool) : Reading Piece := do
      let _ ← take
      pure (.parameter quoted name (.substitute how orEmpty (← pieces fuel inner [])))
    match ← peek with
    | some '\x7d' =>
      let _ ← take
      pure (.parameter quoted name .none)
    | some ':' =>
      let _ ← take
      match ← peek with
      | some c =>
        match substitute? c with
        | some how => substituted how true
        | none => unknown
      | none => unknown
    | some c =>
      match substitute? c with
      | some how => substituted how false
      | none =>
        if c = '#' || c = '%' then
          let _ ← take
          let long ← taken? c
          pure (.parameter quoted name (.trim (c = '#') long (← pieces fuel .operand [])))
        else unknown
    | none => unknown

/-- Read a text as a list of commands. -/
def substituted : Nat → String → Reading Script
  | 0, _ => fail .openBackquote
  | fuel + 1, text => do
    let outer ← get
    set { Source.ofText text outer.documents outer.aliases with active := [] }
    let body ← list fuel .any
    let inner ← get
    set { outer with documents := inner.documents }
    pure body

/-- Read the documents that are due. -/
def readDocuments : Nat → Reading Unit
  | 0 => pure ()
  | fuel + 1 => do
    match (← get).due with
    | [] => pure ()
    | a :: due =>
      let text := (← get).rest
      let (lines, left) := documentLines a (text.length + 1) false text
      let line := (← get).line
      let ends := text.count '\n' - left.count '\n'
      if a.quoted then
        let body : Word := [.text true (String.ofList lines.flatten)]
        modify fun s => { s with documents := s.documents.setIfInBounds a.number body }
      else
        modify fun s => { s with rest := lines.flatten }
        let body ← pieces fuel .document []
        modify fun s => { s with documents := s.documents.setIfInBounds a.number body }
      modify fun s => { s with rest := left, line := line + ends, due := due }
      readDocuments fuel

/-- Read the next token as it stands. -/
def lex : Nat → Reading Token
  | 0 => pure .ending
  | fuel + 1 => do
    if let some token := (← get).pushed then
      modify fun s => { s with pushed := none }
      return token
    skipBlanks
    match ← peek with
    | none => pure .ending
    | some '\n' =>
      let _ ← take
      pure .newline
    | some c =>
      let doubled : Reading Token := do
        let _ ← take
        if ← taken? c then pure (.sign (String.ofList [c, c])) else pure (.sign (String.singleton c))
      match c with
      | '&' | '|' | ';' => doubled
      | '(' | ')' =>
        let _ ← take
        pure (.sign (String.singleton c))
      | '>' | '<' => redirection none
      | c =>
        if c.isDigit then
          let before ← get
          let _ ← take
          match ← peek with
          | some '>' | some '<' => redirection (some (c.toNat - '0'.toNat))
          | _ =>
            set before
            .word <$> pieces fuel .word []
        else .word <$> pieces fuel .word []
where
  /-- Read the signs of a redirection. -/
  redirection (stream : Option Nat) : Reading Token := do
    match ← take with
    | some '>' =>
      let out (d : Direction) : Token := .redirection (stream.getD 1) (.to d)
      if ← taken? '>' then pure (out .append)
      else if ← taken? '|' then pure (out .force)
      else if ← taken? '&' then pure (out .duplicate)
      else pure (out .output)
    | _ =>
      let sign (s : RedirectionSign) : Token := .redirection (stream.getD 0) s
      if ← taken? '<' then pure (sign (.document (← taken? '-')))
      else if ← taken? '&' then pure (sign (.to .duplicate))
      else if ← taken? '>' then pure (sign (.to .both))
      else pure (sign (.to .input))

/-- Read the next token: perhaps behind line ends, and with keywords or aliases in place of words. -/
def token : Nat → Bool → Bool → Bool → Reading Token
  | 0, _, _, _ => pure .ending
  | fuel + 1, lines, keywords, aliases => do
    match ← lex fuel with
    | .newline =>
      if lines then
        readDocuments fuel
        token fuel lines keywords aliases
      else pure .newline
    | .word word =>
      match word.bare? with
      | none => pure (.word word)
      | some text =>
        if keywords && Token.keywords.contains text then pure (.keyword text)
        else
          let s ← get
          let active := s.active.filter fun (_, left) => left < s.rest.length
          match if aliases then s.aliases.lookup text else none with
          | some value =>
            if (active.lookup text).isSome then pure (.word word)
            else
              set { s with
                rest := value.toList ++ s.rest
                active := (text, s.rest.length) :: active }
              token fuel lines keywords aliases
          | none => pure (.word word)
    | other => pure other

/-- Read a list of commands. -/
def list : Nat → ListKind → Reading Script
  | 0, _ => pure .nothing
  | fuel + 1, kind => listFrom fuel kind (kind = .any) none

/-- Go on with a list of commands. `mayEnd` says that it may end here. -/
def listFrom : Nat → ListKind → Bool → Option Script → Reading Script
  | 0, _, _, _ => pure .nothing
  | fuel + 1, kind, mayEnd, before => do
    let first ← token fuel (kind ≠ .line) true true
    match first with
    | .newline =>
      readDocuments fuel
      pure (before.getD .nothing)
    | .ending =>
      readDocuments fuel
      putBack .ending
      pure (before.getD .nothing)
    | first =>
      putBack first
      if mayEnd && first.endsList then pure (before.getD .nothing)
      else
        let command ← andOr fuel
        let sign ← token fuel false false false
        let command := if sign.isSign "&" then .background command else command
        let all := match before with
          | none => command
          | some before => .sequence before command
        match sign with
        | .newline | .ending =>
          putBack sign
          listFrom fuel kind (kind ≠ .line) (some all)
        | sign =>
          if sign.isSign "&" || sign.isSign ";" then
            listFrom fuel kind (kind ≠ .line) (some all)
          else if kind = .line then unexpected sign none
          else
            putBack sign
            pure all

/-- Read commands joined by `&&` and `||`. -/
def andOr : Nat → Reading Script
  | 0 => pure .nothing
  | fuel + 1 => do joined fuel (← pipeline fuel true)

/-- Read what is joined to a command. -/
def joined : Nat → Script → Reading Script
  | 0, before => pure before
  | fuel + 1, before => do
    let sign ← token fuel false false false
    if sign.isSign "&&" then joined fuel (.both before (← pipeline fuel false))
    else if sign.isSign "||" then joined fuel (.either before (← pipeline fuel false))
    else
      putBack sign
      pure before

/-- Read commands with pipes between them. `seen` says that the first token was looked at. -/
def pipeline : Nat → Bool → Reading Script
  | 0, _ => pure .nothing
  | fuel + 1, seen => do
    let first ← token fuel (!seen) (!seen) (!seen)
    let negated := first.isKeyword "!"
    let start ←
      if negated then token fuel false true true else pure first
    let stage ← command fuel start
    let stages ← moreStages fuel
    let whole := if stages.isEmpty then stage else .pipeline (stage :: stages)
    pure (if negated then .negated whole else whole)

/-- Read the stages of a pipeline behind the first. -/
def moreStages : Nat → Reading (List Script)
  | 0 => pure []
  | fuel + 1 => do
    let sign ← token fuel false false false
    if sign.isSign "|" then
      let first ← token fuel true true true
      let stage ← command fuel first
      pure (stage :: (← moreStages fuel))
    else
      putBack sign
      pure []

/-- Read one command, whose first token is given. -/
def command : Nat → Token → Reading Script
  | 0, _ => pure .nothing
  | fuel + 1, first => do
    let line := (← get).line
    let expect (token : Token) (expected : Token) : Reading Unit :=
      unless token.name = expected.name do unexpected token (some expected)
    let closing (expected : Token) : Reading Unit := do
      expect (← token fuel false false false) expected
    match first with
    | .keyword "if" =>
      let body ← branches fuel
      redirected fuel line body
    | .keyword "while" | .keyword "until" =>
      let condition ← list fuel .body
      closing (.keyword "do")
      let body ← list fuel .body
      closing (.keyword "done")
      redirected fuel line (.repeated (first.isKeyword "while") condition body)
    | .keyword "for" =>
      let name ←
        match ← token fuel false false false with
        | .word word =>
          match word.bare? with
          | some name => if isName name then pure name else fail .badLoopVariable
          | none => fail .badLoopVariable
        | _ => fail .badLoopVariable
      let after ← token fuel true true true
      let items ←
        if after.isKeyword "in" then
          let (items, last) ← wordsUntil fuel
          match last with
          | .newline => pure items
          | last => if last.isSign ";" then pure items else unexpected last none
        else
          if !after.isSign ";" then putBack after
          pure [[Piece.parameter true "@" .none]]
      expect (← token fuel true true true) (.keyword "do")
      let body ← list fuel .body
      closing (.keyword "done")
      redirected fuel line (.each line name items body)
    | .keyword "case" =>
      let subject ←
        match ← token fuel false false false with
        | .word word => pure word
        | other => unexpected other (some (.word []))
      expect (← token fuel true true true) (.keyword "in")
      let arms ← arms fuel
      redirected fuel line (.select line subject arms)
    | .keyword "\x7b" =>
      let body ← list fuel .body
      closing (.keyword "\x7d")
      redirected fuel line body
    | .sign "(" =>
      let body ← list fuel .body
      closing (.sign ")")
      match ← redirections fuel with
      | all => pure (.subshell line body all)
    | .word _ | .redirection .. =>
      putBack first
      simple fuel line true [] [] []
    | other => unexpected other none

/-- Read the branches of a choice, behind the keyword of the first. -/
def branches : Nat → Reading Script
  | 0 => pure .nothing
  | fuel + 1 => do
    let condition ← list fuel .body
    let next ← token fuel false false false
    if !next.isKeyword "then" then unexpected next (some (.keyword "then"))
    let yes ← list fuel .body
    let next ← token fuel false false false
    if next.isKeyword "elif" then pure (.choose condition yes (← branches fuel))
    else
      let (no, last) ←
        if next.isKeyword "else" then
          let no ← list fuel .body
          pure (no, ← token fuel false false false)
        else pure (.nothing, next)
      if !last.isKeyword "fi" then unexpected last (some (.keyword "fi"))
      pure (.choose condition yes no)

/-- Read words up to another token. -/
def wordsUntil : Nat → Reading (List Word × Token)
  | 0 => pure ([], .ending)
  | fuel + 1 => do
    match ← token fuel false false false with
    | .word word =>
      let (words, last) ← wordsUntil fuel
      pure (word :: words, last)
    | last => pure ([], last)

/-- Read the arms of a selection, with the keyword that ends it. -/
def arms : Nat → Reading (List (List Word × Script))
  | 0 => pure []
  | fuel + 1 => do
    let first ← token fuel true true false
    if first.isKeyword "esac" then pure []
    else
      let first ← if first.isSign "(" then token fuel false false false else pure first
      let (words, last) ← patterns fuel first
      if !last.isSign ")" then unexpected last (some (.sign ")"))
      let body ← list fuel .any
      let next ← token fuel true true false
      if next.isKeyword "esac" then pure [(words, body)]
      else if next.isSign ";;" then pure ((words, body) :: (← arms fuel))
      else unexpected next (some (.sign ";;"))

/-- Read the patterns of an arm, the first of which is given, and the token behind them. -/
def patterns : Nat → Token → Reading (List Word × Token)
  | 0, _ => pure ([], .ending)
  | fuel + 1, first => do
    let word : Word :=
      match first with
      | .word word => word
      | .keyword text => [.text false text]
      | _ => []
    let next ← token fuel false false false
    if next.isSign "|" then
      let (words, last) ← patterns fuel (← token fuel false false false)
      pure (word :: words, last)
    else pure ([word], next)

/-- Read redirections, perhaps none. -/
def redirections : Nat → Reading (List Redirection)
  | 0 => pure []
  | fuel + 1 => do
    match ← token fuel false true true with
    | .redirection stream sign =>
      let one ← target fuel stream sign
      pure (one :: (← redirections fuel))
    | other =>
      putBack other
      pure []

/-- Put the redirections that follow around a command. -/
def redirected : Nat → Nat → Script → Reading Script
  | 0, _, body => pure body
  | fuel + 1, line, body => do
    let all ← redirections fuel
    pure (if all.isEmpty then body else .redirected line body all)

/-- Read what a redirection is to. -/
def target : Nat → Nat → RedirectionSign → Reading Redirection
  | 0, stream, _ => pure (.document stream 0)
  | fuel + 1, stream, sign => do
    match sign with
    | .to direction =>
      match ← token fuel false false false with
      | .word word => pure (.file stream direction word)
      | other => unexpected other none
    | .document stripped =>
      skipBlanks
      match ← peek with
      | some c =>
        if isDelimiter c then unexpected (← token fuel false false false) none
        else
          let word ← pieces fuel .delimiter []
          let delimiter := String.join (word.map fun
            | .text _ text => text
            | _ => "")
          let number := (← get).documents.size
          let quoted := word.any fun
            | .text quoted _ => quoted
            | _ => false
          modify fun s => { s with
            documents := s.documents.push []
            due := s.due ++ [⟨number, delimiter, stripped, quoted⟩] }
          pure (.document stream number)
      | none => unexpected .ending none

/-- Read a simple command, or the definition of a function. `early` says that an assignment may come
next. What was read before comes last first. -/
def simple : Nat → Nat → Bool → List (String × Word) → List Word → List Redirection →
    Reading Script
  | 0, _, _, _, _, _ => pure .nothing
  | fuel + 1, line, early, assignments, words, redirections => do
    let whole : Script := .simple line assignments.reverse words.reverse redirections.reverse
    match ← token fuel false false early with
    | .word word =>
      match if early then assignment? word else none with
      | some pair => simple fuel line true (pair :: assignments) words redirections
      | none => simple fuel line false assignments (word :: words) redirections
    | .redirection stream sign =>
      simple fuel line early assignments words ((← target fuel stream sign) :: redirections)
    | other =>
      match words with
      | [word] =>
        if other.isSign "(" && assignments.isEmpty && redirections.isEmpty then
          let closing ← token fuel false false false
          if !closing.isSign ")" then unexpected closing (some (.sign ")"))
          let name := word.bare?.getD ""
          if !isName name || specialCommands.contains name then fail .badFunctionName
          let body ← command fuel (← token fuel true true true)
          pure (.define name body)
        else
          putBack other
          pure whole
      | _ =>
        putBack other
        pure whole

end

end Grammar

/-- Read the next complete command, if there is one. The flag says that nothing follows it. -/
def next? (s : Source) : Except Flaw (Option (Script × Bool) × Source) := do
  let lengths := s.aliases.map fun (_, value) => value.length
  let fuel := 16 * (s.rest.length + lengths.foldl (· + ·) 0) + 64
  let run : Reading (Option (Script × Bool)) := do
    let first ← Grammar.token fuel false true true
    match first with
    | .ending => pure none
    | first =>
      putBack first
      let script ← Grammar.listFrom fuel .line false none
      let atEnd := (← get).pushed matches some .ending
      pure (some (script, atEnd))
  let (result, s) ← run { s with pushed := none, due := [] }
  pure (result, { s with pushed := none })

end CSharpBuild.Machine.Script
