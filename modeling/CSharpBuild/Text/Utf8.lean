/-
Reading bytes as UTF-8. `scan` cuts the bytes into scalar values and maximal ill-formed pieces; the
strict reader `decode?` accepts when there is no ill-formed piece, and the forgiving reader
`decodeLossy` puts one replacement character in the place of each.

A piece is maximal in the sense of the Unicode standard: it goes on as long as the bytes seen so far
can still begin a well-formed sequence. `follow_length_le` is what makes `scan` end.
-/
namespace CSharpBuild.Text.Utf8

/-- What a first byte announces: the value bits it carries, how many bytes follow it, and the bounds
of the next one. Only the byte right after the first has bounds of its own. -/
structure Lead where
  bits : Nat
  count : Nat
  least : Nat
  greatest : Nat

/-- The announcement of a first byte, `none` for a byte that starts no sequence. -/
def lead? (byte : UInt8) : Option Lead :=
  let b := byte.toNat
  if b < 0x80 then some ⟨b, 0, 0, 0⟩
  else if b < 0xC2 then none
  else if b < 0xE0 then some ⟨b - 0xC0, 1, 0x80, 0xBF⟩
  else if b = 0xE0 then some ⟨0, 2, 0xA0, 0xBF⟩
  else if b = 0xED then some ⟨0xD, 2, 0x80, 0x9F⟩
  else if b < 0xF0 then some ⟨b - 0xE0, 2, 0x80, 0xBF⟩
  else if b = 0xF0 then some ⟨0, 3, 0x90, 0xBF⟩
  else if b < 0xF4 then some ⟨b - 0xF0, 3, 0x80, 0xBF⟩
  else if b = 0xF4 then some ⟨4, 3, 0x80, 0x8F⟩
  else none

/-- Read the bytes that follow a first byte. The answer is the scalar value, or `none` when the
sequence breaks off, and the bytes that are left: a byte that breaks the sequence is not taken. -/
def follow (bits : Nat) (least greatest : Nat) : Nat → List UInt8 → Option Char × List UInt8
  | 0, bytes => (some (Char.ofNat bits), bytes)
  | _ + 1, [] => (none, [])
  | count + 1, byte :: bytes =>
    if least ≤ byte.toNat ∧ byte.toNat ≤ greatest then
      follow (bits * 64 + byte.toNat % 64) 0x80 0xBF count bytes
    else (none, byte :: bytes)

theorem follow_length_le (bits least greatest count : Nat) (bytes : List UInt8) :
    (follow bits least greatest count bytes).2.length ≤ bytes.length := by
  induction count generalizing bits least greatest bytes with
  | zero => simp [follow]
  | succ count ih =>
    cases bytes with
    | nil => simp [follow]
    | cons byte bytes =>
      rw [follow]
      split
      · exact Nat.le_succ_of_le (ih ..)
      · simp

/-- Cut bytes into scalar values (`some`) and maximal ill-formed pieces (`none`). -/
def scan : List UInt8 → List (Option Char)
  | [] => []
  | byte :: bytes =>
    match lead? byte with
    | none => none :: scan bytes
    | some lead =>
      let piece := follow lead.bits lead.least lead.greatest lead.count bytes
      piece.1 :: scan piece.2
  termination_by bytes => bytes.length
  decreasing_by
    · simp
    · exact Nat.lt_succ_of_le (follow_length_le ..)

/-- The text of well-formed bytes. -/
def decode? (bytes : List UInt8) : Option String :=
  ((scan bytes).mapM id).map String.ofList

/-- The text of any bytes, with `U+FFFD` for each maximal ill-formed piece. -/
def decodeLossy (bytes : List UInt8) : String :=
  String.ofList ((scan bytes).map (·.getD '\uFFFD'))

/-- The bytes of a text. -/
def encode (text : String) : List UInt8 :=
  text.toUTF8.toList

end CSharpBuild.Text.Utf8
