/-
Octets: bytes as a text with one character for each byte. Programs and files know nothing but bytes,
and what a program takes for the length, the letters or the order of a text is a matter of its
bytes; as octets they can still be handled as text.

`Octets.ofText` and `Octets.toText` go between octets and the text that they encode.
-/
import CSharpBuild.Text.Utf8

namespace CSharpBuild.Text.Octets

/-- The character for a byte. -/
def char (byte : UInt8) : Char := Char.ofNat byte.toNat

/-- The byte of a character. -/
def byte (c : Char) : UInt8 := UInt8.ofNat c.toNat

/-- Bytes as octets. -/
def ofBytes (bytes : List UInt8) : String := String.ofList (bytes.map char)

/-- Octets as bytes. -/
def toBytes (octets : String) : List UInt8 := octets.toList.map byte

/-- The octets that encode a text. -/
def ofText (text : String) : String := ofBytes (Utf8.encode text)

/-- The text that octets encode; whatever encodes none is replaced. -/
def toText (octets : String) : String := Utf8.decodeLossy (toBytes octets)

end CSharpBuild.Text.Octets
