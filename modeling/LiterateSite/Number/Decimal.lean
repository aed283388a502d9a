import LiterateSite.Number.Binary
import LiterateSite.Text.Number

/-!
# Decimal texts of numbers

* `shortest`: the fewest decimal digits that no other floating-point number is closer to.
* `plainText`, `compactText`: a number without a power of ten, and one with a power if it is very
  large or small.
* `fixedText`, `powerText`: a given number of places after the point.
* `read?`: the number that a text writes.
-/

namespace LiterateSite.Number

open Text

/-- The digits of a whole number. -/
def digitsOf (n : Nat) : List Char := Nat.toDigits 10 n

/-! ## Shortest digits -/

/-- A multiple of a power of ten next to `mantissa * 2 ^ exponent` that is closer to it than to any
other floating-point number. All lengths are measured in quarters of the last binary place. -/
def candidate? (mantissa : Nat) (exponent place : Int) : Option Nat :=
  let binary := Nat.pow 2 (exponent - 2).toNat * Nat.pow 10 (-place).toNat
  let decimal := Nat.pow 2 (2 - exponent).toNat * Nat.pow 10 place.toNat
  let middle := 4 * mantissa * binary
  let narrow := mantissa == Nat.pow 2 52 && exponent > -1074
  let low := (if narrow then 4 * mantissa - 1 else 4 * mantissa - 2) * binary
  let high := (4 * mantissa + 2) * binary
  let inside := fun d =>
    if mantissa % 2 == 0 then low ≤ d * decimal && d * decimal ≤ high
    else low < d * decimal && d * decimal < high
  let below := middle / decimal
  let above := below + 1
  match decide (0 < below) && inside below, inside above with
  | true, true =>
    if middle - below * decimal < above * decimal - middle then some below else some above
  | true, false => some below
  | false, true => some above
  | false, false => none

/-- The first place from `place` downwards at which there is a candidate; `fuel` bounds how far. -/
def shortestFrom (mantissa : Nat) (exponent : Int) : Nat → Int → Nat × Int
  | 0, place => (0, place)
  | fuel + 1, place =>
    match candidate? mantissa exponent place with
    | some d => (d, place)
    | none => shortestFrom mantissa exponent fuel (place - 1)

/-- The fewest digits `d` and the power `k` of ten such that `d * 10 ^ k` is closest to
`mantissa * 2 ^ exponent` among the floating-point numbers. -/
def shortest (mantissa : Nat) (exponent : Int) : Nat × Int :=
  if mantissa == 0 then (0, 0)
  else
    let magnitude := (mantissa.log2 + exponent + 1) * 30103 / 100000 + 1
    shortestFrom mantissa exponent 24 magnitude

/-- Digits with a point such that the last one stands at a power of ten, and at least one digit on
each side. -/
def pointed (digits : List Char) (power : Int) : List Char :=
  if power ≥ 0 then digits ++ List.replicate power.toNat '0' ++ ['.', '0']
  else
    let places := (-power).toNat
    let digits := List.replicate (places + 1 - digits.length) '0' ++ digits
    digits.take (digits.length - places) ++ '.' :: digits.drop (digits.length - places)

def signOf (negative : Bool) : List Char := if negative then ['-'] else []

def invalidText : List Char := "NaN".toList

def infiniteText : List Char := "inf".toList

/-- A number written without a power of ten, in the fewest digits that tell it from others. -/
def plainText (x : Float) : List Char :=
  match fraction x with
  | .invalid => invalidText
  | .infinite negative => signOf negative ++ infiniteText
  | .finite negative m q =>
    let (d, k) := shortest m q
    signOf negative ++ pointed (digitsOf d) k

/-- Digits as a number between one and ten, with a power of ten. -/
def scientific (digits : List Char) (power : Int) : List Char :=
  let places := digits.length - 1
  digits.take 1 ++ (if places == 0 then [] else '.' :: digits.drop 1) ++ 'e' ::
    (toString (power + places)).toList

/-- A number in the fewest digits that tell it from others, with a power of ten if it is less than
`0.0001` or not less than `10 ^ 16`. -/
def compactText (x : Float) : List Char :=
  match fraction x with
  | .finite negative m q =>
    let (d, k) := shortest m q
    let digits := digitsOf d
    let power := k + digits.length
    if d != 0 && (power > 16 || power < -3) then signOf negative ++ scientific digits k
    else signOf negative ++ pointed digits k
  | _ => plainText x

/-! ## A given number of places -/

/-- The quotient, rounded to the nearest whole number; a half goes to the even one. -/
def roundedQuotient (a b : Nat) : Nat :=
  let q := a / b
  let r := a % b
  if 2 * r < b || (2 * r == b && q % 2 == 0) then q else q + 1

/-- The number `mantissa * 2 ^ exponent * 10 ^ places`, rounded. -/
def scaled (mantissa : Nat) (exponent places : Int) : Nat :=
  roundedQuotient (mantissa * Nat.pow 2 exponent.toNat * Nat.pow 10 places.toNat)
    (Nat.pow 2 (-exponent).toNat * Nat.pow 10 (-places).toNat)

/-- Digits of which the last `places` stand after the point. -/
def withPlaces (n places : Nat) : List Char :=
  if places == 0 then digitsOf n
  else pointed (digitsOf n) (-(places : Int))

/-- A number that is not negative, with a given number of places. -/
def fixedText (mantissa : Nat) (exponent : Int) (places : Nat) : List Char :=
  withPlaces (scaled mantissa exponent places) places

/-- The power of ten of the first digit, when so many digits after it are kept; `fuel` bounds the
search from above. -/
def leadingPower (mantissa : Nat) (exponent : Int) (places : Nat) : Nat → Int → Int
  | 0, power => power
  | fuel + 1, power =>
    if scaled mantissa exponent (places - power) ≥ Nat.pow 10 places then power
    else leadingPower mantissa exponent places fuel (power - 1)

/-- The first digit, so many digits after it and the power of ten of the first. -/
def leadingDigits (mantissa : Nat) (exponent : Int) (places : Nat) : List Char × Int :=
  if mantissa == 0 then (List.replicate (places + 1) '0', 0)
  else
    let guess := (mantissa.log2 + exponent + 1) * 30103 / 100000 + 2
    let power := leadingPower mantissa exponent places 8 guess
    (digitsOf (scaled mantissa exponent (places - power)), power)

/-- A power of ten in at least two digits, with its sign. -/
def powerSuffix (power : Int) : List Char :=
  let digits := digitsOf power.natAbs
  'e' :: (if power < 0 then '-' else '+') ::
    (if digits.length < 2 then '0' :: digits else digits)

/-- A number that is not negative, as one between one and ten and a power of ten. -/
def powerText (mantissa : Nat) (exponent : Int) (places : Nat) : List Char :=
  let (digits, power) := leadingDigits mantissa exponent places
  digits.take 1 ++ (if places == 0 then [] else '.' :: digits.drop 1) ++ powerSuffix power

/-! ## Reading -/

/-- The sign of a number, and the text after it. -/
def readSign : List Char → Bool × List Char
  | '-' :: rest => (true, rest)
  | '+' :: rest => (false, rest)
  | text => (false, text)

/-- The whole number that a text of digits writes, with a sign or none. -/
def readInt? (text : List Char) : Option Int :=
  let (negative, digits) := readSign text
  if digits.isEmpty || !digits.all Char.isDigit then none
  else
    let n : Int := decimalNumber digits
    some (if negative then -n else n)

/-- The power of ten at the end of a number. -/
def readPower? : List Char → Option Int
  | [] => some 0
  | c :: rest => if c == 'e' || c == 'E' then readInt? rest else none

/-- The number `n * 10 ^ power`, for powers however large. -/
def ofDecimal (n : Nat) (power : Int) : Float :=
  if n == 0 then 0
  else if power > 400 then 1.0 / 0.0
  else if power < -(400 + (digitsOf n).length : Int) then 0
  else Float.ofScientific n (power < 0) power.natAbs

/-- The number that a text without a sign writes. -/
def readUnsigned? (text : List Char) : Option Float :=
  let word := String.ofList (text.map Char.toLower)
  if word == "inf" || word == "infinity" then some (1.0 / 0.0)
  else if word == "nan" then some (0.0 / 0.0)
  else
    let front := text.takeWhile Char.isDigit
    let rest := text.dropWhile Char.isDigit
    let (back, rest) :=
      match rest with
      | '.' :: rest => (rest.takeWhile Char.isDigit, rest.dropWhile Char.isDigit)
      | _ => ([], rest)
    if front.isEmpty && back.isEmpty then none
    else (readPower? rest).map fun power =>
      ofDecimal (decimalNumber (front ++ back)) (power - back.length)

/-- The number that a text writes. -/
def read? (text : List Char) : Option Float :=
  let (negative, rest) := readSign text
  (readUnsigned? rest).map fun x => if negative then -x else x

end LiterateSite.Number
