/-
Numerals: digits as numbers, and whether a decimal number is too large for a binary floating-point
number of 64 bits: when its exact value is rounded once (`tooLarge`), or when it is put together
from a significand and a power of ten that are rounded each (`Scaled.overflows`).
-/
namespace CSharpBuild.Text.Numeral

/-- The value of a hexadecimal digit. -/
def digit? (c : Char) : Option Nat :=
  if '0' ≤ c ∧ c ≤ '9' then some (c.toNat - '0'.toNat)
  else if 'a' ≤ c ∧ c ≤ 'f' then some (c.toNat - 'a'.toNat + 10)
  else if 'A' ≤ c ∧ c ≤ 'F' then some (c.toNat - 'A'.toNat + 10)
  else none

/-- Whether a character is a digit in a base. -/
def isDigitIn (base : Nat) (c : Char) : Bool := (digit? c).any (· < base)

/-- The number that digits stand for in a base. -/
def ofDigits (base : Nat) (digits : List Char) : Nat :=
  digits.foldl (fun value c => value * base + (digit? c).getD 0) 0

/-- The scalar value that hexadecimal digits stand for; surrogates and what lies beyond the last
plane are none. -/
def scalar? (digits : List Char) : Option Char :=
  let value := ofDigits 16 digits
  if h : value.isValidChar then some (Char.ofNatAux value h) else none

/-- The least number that rounds to no finite binary floating-point number of 64 bits. -/
def doubleLimit : Nat := Nat.pow 2 1024 - Nat.pow 2 970

/-- Whether `mantissa · 10 ^ exponent` is too large for a finite number of 64 bits. Numbers that are
far off are told by their count of digits. -/
def overflowsDouble (mantissa : Nat) (exponent : Int) : Bool :=
  let size : Int := (toString mantissa).length + exponent
  if mantissa = 0 ∨ size < 309 then false
  else if size > 309 then true
  else if exponent < 0 then doubleLimit * Nat.pow 10 exponent.natAbs ≤ mantissa
  else doubleLimit ≤ mantissa * Nat.pow 10 exponent.natAbs

/-- Whether a number written with a whole part, a fraction and an exponent is too large. -/
def tooLarge (whole fraction : List Char) (negative : Bool) (exponent : List Char) : Bool :=
  let power : Int := ofDigits 10 exponent
  overflowsDouble (ofDigits 10 (whole ++ fraction))
    ((if negative then -power else power) - fraction.length)

/-! ## Numbers in two parts -/

/-- The number of 64-bit floating point that is nearest to a natural number; of two the even one.
Numbers beyond the range keep their 53 leading bits all the same. -/
def nearestDouble (n : Nat) : Nat :=
  let excess := Nat.log2 n + 1 - 53
  let unit := Nat.pow 2 excess
  let quotient := n / unit
  let twice := 2 * (n % unit)
  let up := unit < twice || (unit == twice && quotient % 2 == 1)
  (if up then quotient + 1 else quotient) * unit

/-- A decimal number as a significand and an exponent of ten. -/
structure Scaled where
  significand : Nat
  exponent : Int
  deriving Repr, DecidableEq

namespace Scaled

/-- The greatest significand. -/
def significandLimit : Nat := Nat.pow 2 64

/-- Take the digits of a whole number as far as the significand holds them. Each one that is left
out counts for a power of ten. -/
def ofWhole (digits : List Char) : Scaled :=
  (digits.foldl (fun (number, full) c =>
    let next := number.significand * 10 + (digit? c).getD 0
    if full || significandLimit ≤ next then ({ number with exponent := number.exponent + 1 }, true)
    else (⟨next, number.exponent⟩, false)) (⟨0, 0⟩, false)).1

/-- Take the digits of a fraction as far as the significand holds them. -/
def addFraction (number : Scaled) : List Char → Scaled
  | [] => number
  | c :: rest =>
    let next := number.significand * 10 + (digit? c).getD 0
    if significandLimit ≤ next then number
    else addFraction ⟨next, number.exponent - 1⟩ rest

/-- Take an exponent. -/
def addExponent (number : Scaled) (negative : Bool) (digits : List Char) : Scaled :=
  let power : Int := ofDigits 10 digits
  { number with exponent := number.exponent + (if negative then -power else power) }

/-- Whether the two parts, each as a number of 64-bit floating point, multiply to no finite one. -/
def overflows (number : Scaled) : Bool :=
  number.significand ≠ 0 && 0 ≤ number.exponent &&
    (308 < number.exponent ||
      doubleLimit ≤ nearestDouble number.significand *
        nearestDouble (Nat.pow 10 number.exponent.natAbs))

end Scaled

end CSharpBuild.Text.Numeral
