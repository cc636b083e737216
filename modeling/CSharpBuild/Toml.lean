/-
Reading TOML 1.0 documents. `Toml.read?` delivers the tree of a document, or nothing when the text
is not one.

A document is built line by line into nodes, which remember how each table came to be: a table that
was written out may not be written again, one that a dotted key made may only be extended by dotted
keys, and one that only stands between others may still be written out. `Node.descend` is where
these rules are kept. Values and keys may be nested less than eighty deep.
-/
import CSharpBuild.Toml.Scalar

namespace CSharpBuild.Toml

open Text Text.Reader

/-- How deep values may be nested, and how many parts a dotted key may have. -/
def depthLimit : Nat := 80

/-! ## Nodes -/

/-- How a table came to be. -/
inductive Origin where
  /-- It was written out, under a header of its own or in braces. -/
  | written
  /-- It stands between tables that were written out. -/
  | between
  /-- A dotted key made it. -/
  | dotted
  deriving DecidableEq, Repr

/-- A node of a document. -/
inductive Node where
  | leaf (value : Tree)
  | table (origin : Origin) (entries : List (String × Node))
  | tables (items : List (List (String × Node)))

/-- The entries of a table under construction. -/
abbrev Entries := List (String × Node)

namespace Node

/-- Replace the node of a key, or add the key at the end. -/
def put (entries : Entries) (key : String) (node : Node) : Entries :=
  match entries with
  | [] => [(key, node)]
  | (k, n) :: rest => if k = key then (k, node) :: rest else (k, n) :: put rest key node

/-- Change a table found by following a path, and make the tables on the way that are not there.
`made` says how those come to be: a dotted key may only go through tables that dotted keys or
nothing but headers further down have made. The change is told how the table it gets came to be. -/
def descend (made : Origin) (change : Origin → Entries → Option Entries) (origin : Origin)
    (entries : Entries) : List String → Option Entries
  | [] => change origin entries
  | key :: path => do
    match entries.lookup key with
    | none =>
      let child ← descend made change made [] path
      pure (put entries key (.table made child))
    | some (.table origin child) =>
      if made = .dotted ∧ origin = .written then none
      else
        let child ← descend made change origin child path
        pure (put entries key (.table origin child))
    | some (.tables items) =>
      let last ← items.getLast?
      let child ← descend made change .written last path
      pure (put entries key (.tables (items.dropLast ++ [child])))
    | some (.leaf _) => none

/-- Put a value under a key that is not there yet. A key without dots belongs to a table that no
dotted key has made, and the last table of a dotted key to one that a dotted key has made. -/
def assign (isDotted : Bool) (key : String) (node : Node) (origin : Origin) (entries : Entries) :
    Option Entries :=
  if (origin = .dotted ↔ isDotted = true) ∧ (entries.lookup key).isNone then
    some (entries ++ [(key, node)])
  else none

/-- Write a table out under a header. It comes last among its neighbours, also if others stand
between it and what it holds already. -/
def open? (key : String) (entries : Entries) : Option Entries :=
  match entries.lookup key with
  | none => some (put entries key (.table .written []))
  | some (.table .between child) =>
    some (entries.filter (·.1 ≠ key) ++ [(key, .table .written child)])
  | _ => none

/-- Write one more table of a list out under a header. -/
def append? (key : String) (entries : Entries) : Option Entries :=
  match entries.lookup key with
  | none => some (put entries key (.tables [[]]))
  | some (.tables items) => some (put entries key (.tables (items ++ [[]])))
  | _ => none

mutual

/-- A node as a tree, whose tables have a given form. -/
def tree (form : TableForm) : Node → Tree
  | .leaf value => value
  | .table _ entries => .table form (entriesTree form entries)
  | .tables items => .list (itemsTree form items)

/-- The entries of a table as entries of a tree. -/
def entriesTree (form : TableForm) : List (String × Node) → List (String × Tree)
  | [] => []
  | (key, node) :: rest => (key, node.tree form) :: entriesTree form rest

/-- The tables of a list as trees. -/
def itemsTree (form : TableForm) : List (List (String × Node)) → List Tree
  | [] => []
  | entries :: rest => .table form (entriesTree form entries) :: itemsTree form rest

end

end Node

/-! ## Keys and values -/

/-- Take a comment. -/
def comment : Reader Unit := do
  char '#'
  let _ ← takeWhile isPrintable

/-- The rest of a line after what it says. -/
def lineRest : Reader Unit := do
  spaces
  let _ ← Reader.optional comment
  newline <|> atEnd

/-- One part of a key. -/
def simpleKey : Reader String :=
  String.ofList <$> (lineString <|> takeWhile1 fun c => c.isAlphanum || c = '_' || c = '-')

/-- A key: parts with dots between them. -/
def key : Reader (List String) := do
  let part : Reader String := do
    spaces
    let k ← simpleKey
    spaces
    pure k
  let first ← part
  let rest ← collect do
    if ← taken? "." then some <$> part else pure none
  let parts := first :: rest
  require (parts.length < depthLimit)
  pure parts

/-- The blanks, line ends and comments between the items of a list. -/
def betweenItems : Reader Unit := do
  let _ ← collect do
    spacesAndLines
    Reader.optional (do comment; newline)

/-- The entries of a table in braces. -/
def inlineEntries (pairs : List (List String × Tree)) : Option Entries :=
  pairs.foldlM (fun entries (path, value) =>
    Node.descend .dotted (Node.assign (path.length > 1) (path.getLast?.getD "") (.leaf value))
      .written entries path.dropLast) []

/-- A key and its value. -/
def pair (value : Reader Tree) : Reader (List String × Tree) := do
  let path ← key
  char '='
  spaces
  let tree ← value
  pure (path, tree)

/-- A list, after its opening bracket. A comma may stand after the last item. -/
def listRest (value : Reader Tree) : Reader Tree := do
  let items ← collect do
    betweenItems
    if ← taken? "]" then pure none
    else
      let item ← value
      betweenItems
      match ← peek? with
      | some ',' => do char ','; pure (some item)
      | some ']' => pure (some item)
      | _ => refuse
  pure (.list items)

/-- A table in braces, after the opening one. No comma stands after the last entry. -/
def inlineTableRest (value : Reader Tree) : Reader Tree := do
  spaces
  let pairs ← (do char '\x7d'; pure []) <|> (do
    let one := do
      let p ← pair value
      spaces
      pure p
    let first ← one
    let rest ← collect do
      if ← taken? "," then some <$> one else pure none
    char '\x7d'
    pure (first :: rest))
  let entries ← expect (inlineEntries pairs)
  pure (.table .braced (Node.entriesTree .braced entries))

/-- A value with less than the given number of brackets inside one another. -/
def value : Nat → Reader Tree
  | 0 => refuse
  | depth + 1 => do
    match ← peek? with
    | some '[' => do
      char '['
      require (depth ≠ 0)
      listRest (value depth)
    | some '\x7b' => do
      char '\x7b'
      require (depth ≠ 0)
      inlineTableRest (value depth)
    | _ => scalar

/-! ## Documents -/

/-- One line of a document, as far as it says something. -/
inductive Line where
  | blank
  | header (path : List String)
  | listHeader (path : List String)
  | pair (path : List String) (value : Tree)

/-- A header. -/
def header : Reader Line :=
  (do
    literal "[["
    let path ← key
    literal "]]"
    pure (.listHeader path))
    <|> (do
      char '['
      let path ← key
      char ']'
      pure (.header path))

/-- A line, up to and with its end. -/
def line : Reader Line := do
  spaces
  match ← peek? with
  | none | some '#' | some '\n' | some '\x0d' => do
    lineRest
    pure .blank
  | some '[' => do
    let l ← header
    lineRest
    pure l
  | _ => do
    let (path, tree) ← pair (value depthLimit)
    lineRest
    pure (.pair path tree)

/-- All lines of a document, which may start with a byte order mark. -/
def lines : Reader (List Line) := do
  let _ ← Reader.optional (char '\uFEFF')
  collect fun text => if text.isEmpty then some (none, text) else (some <$> line) text

/-- A document so far: the root table and the path of the table that pairs go into. -/
structure Document where
  root : Entries
  here : List String

namespace Document

/-- Change the table at the end of a path that a header names. -/
def underHeader (d : Document) (path : List String) (change : String → Entries → Option Entries) :
    Option Document := do
  let key ← path.getLast?
  let root ← Node.descend .between (fun _ => change key) .written d.root path.dropLast
  pure ⟨root, path⟩

/-- Put the value of a pair into the table that is being written. -/
def put (d : Document) (path : List String) (value : Tree) : Option Document := do
  let key ← path.getLast?
  let assign := Node.assign (path.length > 1) key (.leaf value)
  let inTable (_ : Origin) (entries : Entries) : Option Entries :=
    Node.descend .dotted assign .written entries path.dropLast
  let root ← Node.descend .between inTable .written d.root d.here
  pure { d with root }

/-- Take one line in. -/
def add (d : Document) : Line → Option Document
  | .blank => some d
  | .header path => d.underHeader path Node.open?
  | .listHeader path => d.underHeader path Node.append?
  | .pair path value => d.put path value

end Document

/-- Read a TOML document. -/
def read? (text : String) : Option Tree := do
  let ls ← readAll lines text
  let d ← ls.foldlM Document.add ⟨[], []⟩
  pure (.table .headed (Node.entriesTree .headed d.root))

end CSharpBuild.Toml
