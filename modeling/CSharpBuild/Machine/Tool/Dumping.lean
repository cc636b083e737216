/-
Tools that write bytes in other ways: as numbers or names of characters, and in groups of six bits.
-/
import CSharpBuild.Machine.Tool

namespace CSharpBuild.Machine.Tool

open Text

/-- A way of writing the bytes of a file: the size of an item, how wide it is, and its text. -/
structure Dump where
  size : Nat
  width : Nat
  text : List Char → String
  /-- Whether the line ends with the characters themselves. -/
  showsText : Bool

namespace Dump

/-- The number that some bytes write, the lowest of them first. -/
def value (octets : List Char) : Nat := octets.foldr (fun c n => c.toNat + 256 * n) 0

/-- Fill up on the left. -/
def padded (c : Char) (width : Nat) (text : String) : String :=
  "".pushn c (width - text.length) ++ text

/-- The names of the characters that cannot be seen. -/
def names : List String :=
  ["nul", "soh", "stx", "etx", "eot", "enq", "ack", "bel", "bs", "ht", "nl", "vt", "ff", "cr", "so",
    "si", "dle", "dc1", "dc2", "dc3", "dc4", "nak", "syn", "etb", "can", "em", "sub", "esc", "fs",
    "gs", "rs", "us", "sp"]

/-- A character by its name. -/
def name (c : Char) : String :=
  let n := c.toNat % 128
  if n = 127 then "del" else (names[n]?).getD (String.singleton (Char.ofNat n))

/-- A character as an escape writes it. -/
def asEscape (c : Char) : String :=
  if isPrintable c then String.singleton c
  else if c = '\x00' then "\\0"
  else
    match escapeOf c with
    | [letter] => "\\" ++ String.singleton letter
    | digits => String.ofList digits

/-- A way of writing by its letter and the size of an item. -/
def of? (letter : Char) (size : Nat) : Option Dump :=
  let digits (base : Nat) (n : Nat) : String := String.ofList (Nat.toDigits base n)
  match letter with
  | 'a' => some ⟨1, 3, fun octets => name (octets.headD '\x00'), false⟩
  | 'c' => some ⟨1, 3, fun octets => asEscape (octets.headD '\x00'), false⟩
  | 'o' =>
    let width := (8 * size + 2) / 3
    some ⟨size, width, fun octets => padded '0' width (digits 8 (value octets)), false⟩
  | 'x' => some ⟨size, 2 * size, fun octets => padded '0' (2 * size) (digits 16 (value octets)), false⟩
  | 'u' =>
    some ⟨size, (toString (Nat.pow 256 size - 1)).length, fun octets => toString (value octets), false⟩
  | 'd' =>
    let half := Nat.pow 256 size / 2
    some ⟨size, (toString half).length + 1, fun octets =>
      let n := value octets
      if half ≤ n then toString ((n : Int) - 2 * half) else toString n, false⟩
  | _ => none

/-- Read ways of writing. Each step takes a character, so `fuel` is the length of the text. -/
def readTypes (whole : String) : Nat → List Char → Except String (List Dump)
  | 0, _ => .ok []
  | _ + 1, [] => .ok []
  | fuel + 1, letter :: rest =>
    if letter = 'a' || letter = 'c' || ['d', 'o', 'u', 'x'].contains letter then
      let isText := letter = 'a' || letter = 'c'
      let digits := if isText then [] else rest.takeWhile Char.isDigit
      let (size, rest) : Nat × List Char :=
        if isText then (1, rest)
        else if !digits.isEmpty then (Numeral.ofDigits 10 digits, rest.drop digits.length)
        else
          match rest with
          | 'C' :: rest => (1, rest)
          | 'S' :: rest => (2, rest)
          | 'I' :: rest => (4, rest)
          | 'L' :: rest => (8, rest)
          | rest => (4, rest)
      let (showsText, rest) : Bool × List Char :=
        match rest with
        | 'z' :: rest => (true, rest)
        | rest => (false, rest)
      if !([1, 2, 4, 8].contains size) then
        .error ("invalid type string " ++ escaped whole ++ ";\nthis system doesn't provide a "
          ++ toString size ++ "-byte integral type")
      else
        match of? letter size with
        | none => .ok []
        | some d => do .ok ({ d with showsText := showsText } :: (← readTypes whole fuel rest))
    else
      .error ("invalid character '" ++ String.singleton letter ++ "' in type string "
        ++ escaped whole)

/-- Write a block by one way of writing: `total` is how wide a whole block is by the widest way. -/
def line (d : Dump) (block total : Nat) (octets : List Char) : String :=
  let fields := block / d.size
  let pad := total - d.width * fields
  let filled := octets ++ List.replicate (d.size - 1) '\x00'
  let used := (octets.length + d.size - 1) / d.size
  let write (i : Nat) : String :=
    let left := fields - i
    let before := pad * left / fields
    let after := pad * (left - 1) / fields
    padded ' ' (before - after + d.width) (d.text ((filled.drop (i * d.size)).take d.size))
  let text := String.join ((List.range used).map write)
  if d.showsText then
    let missing := total - text.length
    let seen := octets.map fun c => if isPrintable c then c else '.'
    text ++ "".pushn ' ' missing ++ "  >" ++ String.ofList seen ++ "<"
  else text

end Dump

/-- Cut a list into pieces of a size. -/
def pieces {α : Type} (size : Nat) (items : List α) : List (List α) :=
  go items.length items
where
  /-- Cut pieces off; each takes an item, so `fuel` is their number. -/
  go : Nat → List α → List (List α)
    | 0, _ => []
    | _ + 1, [] => []
    | fuel + 1, items => items.take (max size 1) :: go fuel (items.drop (max size 1))

/-- Write the bytes of files as numbers or characters. -/
def od : Tool :=
  let options : Options := ⟨"A:abcdij:lN:ost:vw:x", [("address-radix", 'A'), ("skip-bytes", 'j'),
    ("read-bytes", 'N'), ("format", 't'), ("output-duplicates", 'v')], [], true⟩
  withOptions options 1 fun a c =>
    let kinds (g : Char × String) : Option (Except String (List Dump)) :=
      let plain (text : String) := some (Dump.readTypes text (text.length + 1) text.toList)
      match g.1 with
      | 't' => plain g.2
      | 'a' => plain "a"
      | 'b' => plain "o1"
      | 'c' => plain "c"
      | 'd' => plain "u2"
      | 'i' => plain "dI"
      | 'l' => plain "dL"
      | 'o' => plain "o2"
      | 's' => plain "d2"
      | 'x' => plain "x2"
      | _ => none
    let dumps : Except String (List Dump) := do
      let all ← (a.given.filterMap kinds).mapM id
      let all := all.flatten
      .ok (if all.isEmpty then (Dump.of? 'o' 2).toList else all)
    match dumps with
    | .error text => refuses 1 text c
    | .ok dumps =>
      let radix := ((a.value? 'A').bind fun text => text.toList.head?).getD 'o'
      let address (n : Nat) : String :=
        match radix with
        | 'n' => ""
        | 'd' => Dump.padded '0' 7 (toString n)
        | 'x' => Dump.padded '0' 6 (String.ofList (Nat.toDigits 16 n))
        | _ => Dump.padded '0' 7 (String.ofList (Nat.toDigits 8 n))
      let (contents, e) := readAll c a.operands plainComplaint
      let skipped := ((a.value? 'j').bind count?).getD 0
      let text := ((contents.map fun (_, text) => text.toList).flatten).drop skipped
      let text := match (a.value? 'N').bind count? with
        | some count => text.take count
        | none => text
      let block := ((a.value? 'w').bind count?).getD 16
      let total := (dumps.map fun d => (d.width + 1) * (block / d.size)).foldl max 0
      let write (n : Nat) (octets : List Char) : String :=
        String.join ((dumps.zipIdx).map fun (d, i) =>
          (if i = 0 then address n else "".pushn ' ' (address n).length)
            ++ d.line block total octets ++ "\n")
      let step (state : List String × Nat × Option (List Char) × Bool) (octets : List Char) :=
        let (rows, n, last, starred) := state
        if last = some octets && !a.has 'v' && octets.length = block then
          ((if starred then rows else "*\n" :: rows), n + octets.length, last, true)
        else (write n octets :: rows, n + octets.length, some octets, false)
      let (rows, n, _, _) := (pieces block text).foldl step ([], skipped, none, false)
      let e := e.out (String.join rows.reverse)
      if contents.isEmpty || radix = 'n' then e else e.line (address n)

/-! ## Groups of six bits -/

/-- The characters for six bits. -/
def sixBits : List Char :=
  "ABCDEFGHIJKLMNOPQRSTUVWXYZabcdefghijklmnopqrstuvwxyz0123456789+/".toList

/-- Write bytes in groups of six bits. -/
def encodeSix (octets : List Char) : List Char :=
  (pieces 3 octets).flatMap fun group =>
    let n := (group ++ List.replicate (3 - group.length) '\x00').foldl
      (fun n c => 256 * n + c.toNat) 0
    let chars := [n / 262144 % 64, n / 4096 % 64, n / 64 % 64, n % 64].map fun i =>
      (sixBits[i]?).getD '='
    chars.take (group.length + 1) ++ List.replicate (3 - group.length) '='

/-- Read bytes from groups of six bits, and whether they were well written. -/
def decodeSix (text : List Char) : List Char × Bool :=
  go (pieces 4 (text.filter (· ≠ '\n')))
where
  /-- Read groups up to one that is not well written. -/
  go : List (List Char) → List Char × Bool
    | [] => ([], true)
    | group :: rest =>
      let digits := group.takeWhile (· ≠ '=')
      let values := (digits.takeWhile sixBits.contains).filterMap fun c => sixBits.findIdx? (· = c)
      let n := (values ++ List.replicate (4 - values.length) 0).foldl (fun n v => 64 * n + v) 0
      let octets := ([n / 65536 % 256, n / 256 % 256, n % 256].map Char.ofNat).take (values.length - 1)
      let isWhole := group.length = 4 && values.length = digits.length && 2 ≤ values.length &&
        group.drop digits.length = List.replicate (4 - digits.length) '='
      if isWhole then
        let (more, fine) := go rest
        (octets ++ more, fine)
      else (octets, false)

/-- Write a file in groups of six bits, or read it back. -/
def base64 : Tool :=
  let options : Options :=
    ⟨"diw:", [("decode", 'd'), ("ignore-garbage", 'i'), ("wrap", 'w')], [], true⟩
  withOptions options 1 fun a c =>
    let wrap := (a.value? 'w').getD "76"
    match count? wrap, a.operands with
    | none, _ => refuses 1 ("invalid wrap size: " ++ escaped wrap) c
    | _, _ :: extra :: _ => misused 1 ("extra operand " ++ quoted extra) c
    | some width, _ =>
      let (contents, e) := readAll c a.operands plainComplaint
      let text := (contents.map fun (_, text) => text.toList).flatten
      if a.has 'd' then
        let text := if a.has 'i' then text.filter fun c => sixBits.contains c || c = '=' else text
        let (octets, fine) := decodeSix text
        let e := e.out (String.ofList octets)
        if fine then e else e.complain c.name 1 "invalid input"
      else
        let encoded := encodeSix text
        e.out (if width = 0 then String.ofList encoded
          else String.join ((pieces width encoded).map fun line => String.ofList line ++ "\n"))

end CSharpBuild.Machine.Tool
