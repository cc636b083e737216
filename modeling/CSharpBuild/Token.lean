/-
Command-line tokens. A path travels as a quoted token; the argument that the child receives is the
token with its quoting resolved.

The rule is the one of the Windows command line: a double quote opens or closes quoting and is
dropped, `2n` backslashes before a quote stand for `n` of them, `2n + 1` for `n` and a literal
quote, and backslashes anywhere else stand for themselves. `unquote` resolves a token by this rule,
and `quote` writes a path so that resolving gives it back. Both read left to right and hold a run of
backslashes until the character after it is known.
-/
import CSharpBuild.Path

namespace CSharpBuild.Token

/-- The inside of a quoted token: `held` backslashes have been read and not yet written. -/
def quoteFrom (held : Nat) : List Char → List Char
  | [] => List.replicate (2 * held) '\\'
  | c :: rest =>
    if c = '\\' then quoteFrom (held + 1) rest
    else if c = '"' then List.replicate (2 * held + 1) '\\' ++ c :: quoteFrom 0 rest
    else List.replicate held '\\' ++ c :: quoteFrom 0 rest

/-- The characters of a path as one quoted token. -/
def quoteChars (path : List Char) : List Char :=
  '"' :: quoteFrom 0 path ++ ['"']

/-- A path as one command-line token, always in double quotes. -/
def quote (path : Path) : String :=
  String.ofList (quoteChars path.text.toList)

/-- Resolve quoting: `held` backslashes have been read and not yet written. -/
def unquoteFrom (held : Nat) : List Char → List Char
  | [] => List.replicate held '\\'
  | c :: rest =>
    if c = '\\' then unquoteFrom (held + 1) rest
    else if c = '"' then
      List.replicate (held / 2) '\\' ++ (if held % 2 = 1 then ['"'] else []) ++ unquoteFrom 0 rest
    else List.replicate held '\\' ++ c :: unquoteFrom 0 rest

/-- The argument a token stands for. -/
def unquote (token : String) : String :=
  String.ofList (unquoteFrom 0 token.toList)

@[simp] theorem toList_quote (path : Path) : (quote path).toList = quoteChars path.text.toList := by
  simp [quote]

@[simp] theorem toList_unquote (token : String) :
    (unquote token).toList = unquoteFrom 0 token.toList := by
  simp [unquote]

end CSharpBuild.Token
