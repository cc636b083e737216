/-
Binary floating-point numbers of 64 bits as exact values, read from decimal and hexadecimal numerals
and written as them. Whatever has to be rounded is rounded once, from its exact value, to the
nearest number that there is, and of two to the even one.
-/
import CSharpBuild.Text.Numeral

namespace CSharpBuild.Text

/-- A floating-point number. A finite one is its mantissa times a power of two. -/
inductive Double where
  | finite (negative : Bool) (mantissa : Nat) (exponent : Int)
  | infinite (negative : Bool)
  | nan (negative : Bool)
  deriving Repr, DecidableEq

namespace Double

/-- The least exponent. -/
def leastExponent : Int := -1074

/-- The number of which a mantissa has fewer than so many bits. -/
def precision : Nat := 53

/-- A quotient as a whole number, rounded; of two that are as near, the even one. -/
def roundedQuotient (dividend divisor : Nat) : Nat :=
  let quotient := dividend / divisor
  let twice := 2 * (dividend % divisor)
  if divisor < twice || (divisor == twice && quotient % 2 == 1) then quotient + 1 else quotient

/-- A whole number times a power of two, as a fraction. -/
def fraction (number : Nat) (exponent : Int) : Nat × Nat :=
  match exponent with
  | .ofNat n => (number * Nat.pow 2 n, 1)
  | .negSucc n => (number, Nat.pow 2 (n + 1))

/-- The floating-point number that is nearest to a fraction. -/
def ofFraction (negative : Bool) (numerator denominator : Nat) : Double :=
  if numerator = 0 ∨ denominator = 0 then .finite negative 0 leastExponent
  else
    let guess : Int := (Nat.log2 numerator : Int) - (Nat.log2 denominator : Int) - 52
    let scaled (exponent : Int) : Nat × Nat :=
      let (up, down) := fraction numerator (-exponent)
      (up, down * denominator)
    let tooSmall := let (up, down) := scaled guess; up / down < Nat.pow 2 (precision - 1)
    let exponent := max leastExponent (if tooSmall then guess - 1 else guess)
    let (up, down) := scaled exponent
    let mantissa := roundedQuotient up down
    let (mantissa, exponent) :=
      if mantissa = Nat.pow 2 precision then (Nat.pow 2 (precision - 1), exponent + 1)
      else (mantissa, exponent)
    if 971 < exponent then .infinite negative else .finite negative mantissa exponent

/-- The number that is nearest to a whole number times a power of ten. Powers that are far off are
not computed. -/
def ofDecimal (negative : Bool) (digits : Nat) (exponent : Int) : Double :=
  let size : Int := (toString digits).length + exponent
  if digits = 0 ∨ size < -400 then .finite negative 0 leastExponent
  else if 400 < size then .infinite negative
  else
    match exponent with
    | .ofNat n => ofFraction negative (digits * Nat.pow 10 n) 1
    | .negSucc n => ofFraction negative digits (Nat.pow 10 (n + 1))

/-- Whether a number is less than zero, or the zero that has a sign. -/
def isNegative : Double → Bool
  | .finite negative .. | .infinite negative | .nan negative => negative

/-- The bits of a number. -/
def bits : Double → Nat
  | .finite negative mantissa exponent =>
    let hidden := Nat.pow 2 (precision - 1)
    let sign := if negative then Nat.pow 2 63 else 0
    if mantissa < hidden then sign + mantissa
    else sign + (exponent - leastExponent + 1).toNat * hidden + (mantissa - hidden)
  | .infinite negative => (if negative then 0xFFF else 0x7FF) * Nat.pow 2 52
  | .nan negative => (if negative then 0xFFF8 else 0x7FF8) * Nat.pow 2 48

/-- The number of some bits. -/
def ofBits (bits : Nat) : Double :=
  let hidden := Nat.pow 2 (precision - 1)
  let negative := bits / Nat.pow 2 63 % 2 = 1
  let power := bits / hidden % 2048
  let mantissa := bits % hidden
  if power = 2047 then (if mantissa = 0 then .infinite negative else .nan negative)
  else if power = 0 then .finite negative mantissa leastExponent
  else .finite negative (mantissa + hidden) (leastExponent + power - 1)

/-- A number as one to compute with. -/
def toFloat (d : Double) : Float := Float.ofBits (UInt64.ofNat d.bits)

/-- The exact value of a number to compute with. -/
def ofFloat (x : Float) : Double := ofBits x.toBits.toNat

/-! ## Reading -/

/-- A number that was read, the text behind it, and whether it lies where numbers of this kind have
not all of their digits, or none. -/
structure Read where
  value : Double
  rest : List Char
  outOfRange : Bool

/-- Read an exponent: its letter, perhaps a sign, and digits. -/
def exponent? (letters : List Char) (text : List Char) : Option (Int × List Char) :=
  match text with
  | c :: rest =>
    if letters.contains c then
      let (negative, digits) : Bool × List Char :=
        match rest with
        | '-' :: rest => (true, rest)
        | '+' :: rest => (false, rest)
        | _ => (false, rest)
      let taken := digits.takeWhile Char.isDigit
      if taken.isEmpty then none
      else
        let n : Int := Numeral.ofDigits 10 taken
        some (if negative then -n else n, digits.drop taken.length)
    else none
  | [] => none

/-- Read a whole part and a fraction: all their digits, how many of them are of the fraction, and
what is left. -/
def mantissa? (base : Nat) (text : List Char) : Option (List Char × Nat × List Char) :=
  let isDigit := Numeral.isDigitIn base
  let whole := text.takeWhile isDigit
  match text.drop whole.length with
  | '.' :: rest =>
    let part := rest.takeWhile isDigit
    if whole.isEmpty && part.isEmpty then none
    else some (whole ++ part, part.length, rest.drop part.length)
  | rest => if whole.isEmpty then none else some (whole, 0, rest)

/-- Whether a number was too large, or so small that digits of it are lost. -/
def losesDigits (digits : Nat) : Double → Bool
  | .infinite _ => true
  | .finite _ mantissa _ => digits ≠ 0 && mantissa < Nat.pow 2 (precision - 1)
  | .nan _ => false

/-- Read the number at the front of a text, behind blanks and a sign. `words` says that also words
and hexadecimal digits are numbers. -/
def read? (words : Bool) (text : List Char) : Option Read :=
  let text := text.dropWhile fun c => c = ' ' || ('\t' ≤ c && c ≤ '\r')
  let (negative, text) : Bool × List Char :=
    match text with
    | '-' :: rest => (true, rest)
    | '+' :: rest => (false, rest)
    | _ => (false, text)
  let word (name : String) : Option (List Char) :=
    let found := text.take name.length
    if words && (String.ofList found).toLower = name then some (text.drop name.length) else none
  let hexadecimal : Option Read :=
    match text with
    | '0' :: x :: rest =>
      if words && (x = 'x' || x = 'X') then
        (mantissa? 16 rest).map fun (digits, places, rest) =>
          let (power, rest) := (exponent? ['p', 'P'] rest).getD (0, rest)
          let number := Numeral.ofDigits 16 digits
          let power := max (-5000) (min 5000 (power - 4 * places))
          let (up, down) := fraction number power
          let value := ofFraction negative up down
          ⟨value, rest, losesDigits number value⟩
      else none
    | _ => none
  let decimal : Option Read :=
    (mantissa? 10 text).map fun (digits, places, rest) =>
      let (power, rest) := (exponent? ['e', 'E'] rest).getD (0, rest)
      let number := Numeral.ofDigits 10 digits
      let value := ofDecimal negative number (power - places)
      ⟨value, rest, losesDigits number value⟩
  match word "infinity", word "inf", word "nan" with
  | some rest, _, _ | none, some rest, _ => some ⟨.infinite negative, rest, false⟩
  | none, none, some rest => some ⟨.nan negative, rest, false⟩
  | none, none, none => hexadecimal.orElse fun _ => decimal

/-! ## Writing -/

/-- Digits with a point in front of the last `places` of them. `pointed` keeps the point when
nothing is behind it. -/
def withPoint (digits : List Char) (places : Nat) (pointed : Bool) : List Char :=
  let digits := List.replicate (places + 1 - digits.length) '0' ++ digits
  let whole := digits.take (digits.length - places)
  if places = 0 then (if pointed then whole ++ ['.'] else whole)
  else whole ++ '.' :: digits.drop whole.length

/-- A fraction with so many places. -/
def fixed (numerator denominator places : Nat) (pointed : Bool) : List Char :=
  let digits := Nat.toDigits 10 (roundedQuotient (numerator * Nat.pow 10 places) denominator)
  withPoint digits places pointed

/-- A fraction times a power of ten, as a whole number. -/
def tenfold (numerator denominator : Nat) (power : Int) : Nat :=
  match power with
  | .ofNat n => roundedQuotient (numerator * Nat.pow 10 n) denominator
  | .negSucc n => roundedQuotient numerator (denominator * Nat.pow 10 (n + 1))

/-- The leading digits of a fraction, one more than `places`, and the power of ten of the first. -/
def leadingDigits (numerator denominator places : Nat) : List Char × Int :=
  if numerator = 0 then (List.replicate (places + 1) '0', 0)
  else
    let whole := numerator / denominator
    let size : Int :=
      if whole ≠ 0 then (Nat.toDigits 10 whole).length - 1
      else
        Int.negOfNat (Nat.toDigits 10 (denominator / numerator)).length
    let attempt (power : Int) : List Char :=
      Nat.toDigits 10 (tenfold numerator denominator (places - power))
    let digits := attempt size
    if digits.length ≤ places then (attempt (size - 1), size - 1)
    else if places + 1 < digits.length then (attempt (size + 1), size + 1)
    else (digits, size)

/-- An exponent of at least two digits behind its letter. -/
def exponentText (letter : Char) (power : Int) : List Char :=
  let digits := Nat.toDigits 10 power.natAbs
  letter :: (if power < 0 then '-' else '+') :: (if digits.length < 2 then '0' :: digits else digits)

/-- A fraction as a number with one digit in front of the point and a power of ten. -/
def scientific (numerator denominator places : Nat) (pointed : Bool) : List Char :=
  let (digits, power) := leadingDigits numerator denominator places
  withPoint digits places pointed ++ exponentText 'e' power

/-- Take off zeros at the end of a fraction, and a point that is left with nothing behind it. -/
def trimZeros (text : List Char) : List Char :=
  if text.contains '.' then
    let trimmed := text.reverse.dropWhile (· = '0')
    (match trimmed with
      | '.' :: rest => rest
      | _ => trimmed).reverse
  else text

/-- A fraction with so many digits in all, in the shorter of the two ways. -/
def general (numerator denominator digits : Nat) (pointed : Bool) : List Char :=
  let digits := if digits = 0 then 1 else digits
  let (leading, power) := leadingDigits numerator denominator (digits - 1)
  let finish (text : List Char) : List Char := if pointed then text else trimZeros text
  if -4 ≤ power ∧ power < digits then
    finish (fixed numerator denominator ((digits : Int) - 1 - power).toNat pointed)
  else finish (withPoint leading (digits - 1) pointed) ++ exponentText 'e' power

/-- A mantissa in hexadecimal digits, with a power of two. -/
def hexadecimal (mantissa : Nat) (exponent : Int) (places : Option Nat) (pointed : Bool) :
    List Char :=
  let hidden := Nat.pow 2 (precision - 1)
  let power : Int :=
    if mantissa = 0 then 0 else if mantissa < hidden then -1022 else exponent + 52
  let rounded : Nat × Nat :=
    match places with
    | some count =>
      if count < 13 then (roundedQuotient mantissa (Nat.pow 16 (13 - count)), count)
      else (mantissa * Nat.pow 16 (count - 13), count)
    | none => (mantissa, 13)
  let digits := withPoint (Nat.toDigits 16 rounded.1) rounded.2 pointed
  let digits := if places.isNone && !pointed then trimZeros digits else digits
  ['0', 'x'] ++ digits ++ 'p' :: (if power < 0 then '-' else '+') :: Nat.toDigits 10 power.natAbs

/-- A number without its sign, as the letter of a format asks for. -/
def format (d : Double) (letter : Char) (places : Option Nat) (pointed : Bool) : List Char :=
  let text : List Char :=
    match d with
    | .infinite _ => "inf".toList
    | .nan _ => "nan".toList
    | .finite _ mantissa exponent =>
      let (up, down) := fraction mantissa exponent
      match letter.toLower with
      | 'f' => fixed up down (places.getD 6) pointed
      | 'e' => scientific up down (places.getD 6) pointed
      | 'a' => hexadecimal mantissa exponent places pointed
      | _ => general up down (places.getD 6) pointed
  if letter.isUpper then text.map Char.toUpper else text

end Double

end CSharpBuild.Text
