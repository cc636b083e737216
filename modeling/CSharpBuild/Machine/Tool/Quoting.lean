/-
Names and words in what tools say of them. `quoted` and `shown` write a name as a shell could read
it, the latter without quotes where none are needed; `escaped` writes a word between quotes with a
backslash before whatever is not plain.
-/
namespace CSharpBuild.Machine.Tool

/-- Whether a character stands for itself on paper. -/
def isPrintable (c : Char) : Bool := ' ' ≤ c && c ≤ '~'

/-- The escape for a character that cannot be printed, behind its backslash. -/
def escapeOf (c : Char) : List Char :=
  match c with
  | '\x07' => ['a']
  | '\x08' => ['b']
  | '\x0c' => ['f']
  | '\n' => ['n']
  | '\r' => ['r']
  | '\t' => ['t']
  | '\x0b' => ['v']
  | c =>
    let digit (n : Nat) : Char := Nat.digitChar (n % 8)
    [digit (c.toNat / 64), digit (c.toNat / 8), digit c.toNat]

/-- Whether a name cannot go without quotes. -/
def needsQuotes (name : String) : Bool :=
  let special (c : Char) : Bool :=
    " !\"$&()*;<=>[^\x60|?\\'".contains c || !isPrintable c
  match name.toList with
  | [] => true
  | first :: rest =>
    first = '#' || first = '~' || (rest.isEmpty && (first = '\x7b' || first = '\x7d')) ||
      (first :: rest).any special

/-- Whether a name with a single quote in it can be written in double quotes. -/
def fitsDoubleQuotes (name : String) : Bool :=
  name.toList.all fun c => c.isAlphanum || "%+,-./:@_] '".contains c

/-- Write a name in single quotes. `escaping` says that the last character was an escape. -/
def inQuotes (escaping : Bool) : List Char → List Char
  | [] => ['\'']
  | c :: rest =>
    if !isPrintable c then
      (if escaping then [] else ['\'', '$', '\'']) ++ '\\' :: escapeOf c ++ inQuotes true rest
    else if c = '\'' then '\'' :: '\\' :: '\'' :: '\'' :: inQuotes false rest
    else (if escaping then ['\'', '\'', c] else [c]) ++ inQuotes false rest

/-- A name in quotes. -/
def quoted (name : String) : String :=
  if name.contains '\'' && fitsDoubleQuotes name then "\"" ++ name ++ "\""
  else String.ofList ('\'' :: inQuotes false name.toList)

/-- A name, in quotes if it needs them. -/
def shown (name : String) : String := if needsQuotes name then quoted name else name

/-- A word in quotes, with escapes in it. -/
def escaped (word : String) : String :=
  let write (c : Char) : List Char :=
    if c = '\'' || c = '\\' then ['\\', c]
    else if isPrintable c then [c]
    else '\\' :: escapeOf c
  String.ofList ('\'' :: word.toList.flatMap write ++ ['\''])

end CSharpBuild.Machine.Tool
