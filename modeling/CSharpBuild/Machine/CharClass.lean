/-
Classes of characters by name, as patterns and expressions name them. They are about octets, and
octets beyond ASCII are in none of them.
-/
namespace CSharpBuild.Machine.CharClass

/-- Whether a character is a blank of any kind. -/
def isSpace (c : Char) : Bool := c = ' ' || ('\t' ≤ c && c ≤ '\r')

/-- Whether a character can be seen. -/
def isGraph (c : Char) : Bool := '!' ≤ c && c ≤ '~'

/-- Whether a character is a hexadecimal digit. -/
def isHex (c : Char) : Bool := c.isDigit || ('a' ≤ c && c ≤ 'f') || ('A' ≤ c && c ≤ 'F')

/-- The class of a name. -/
def ofName? : String → Option (Char → Bool)
  | "alpha" => some Char.isAlpha
  | "digit" => some Char.isDigit
  | "alnum" => some Char.isAlphanum
  | "upper" => some Char.isUpper
  | "lower" => some Char.isLower
  | "space" => some isSpace
  | "blank" => some fun c => c = ' ' || c = '\t'
  | "punct" => some fun c => isGraph c && !c.isAlphanum
  | "print" => some fun c => c = ' ' || isGraph c
  | "graph" => some isGraph
  | "cntrl" => some fun c => c < ' ' || c = '\x7f'
  | "xdigit" => some isHex
  | _ => none

end CSharpBuild.Machine.CharClass
