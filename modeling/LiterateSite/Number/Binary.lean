/-!
# Binary fractions

Floating-point numbers as the fractions that they are.

* `Fraction`: a whole number times a power of two, a number too large, or no number.
* `fraction`: what a floating-point number stands for.
* `truncated?`, `remainder`, `floorQuotient`, `roundTo`: arithmetic whose results are exact.
* `rank`: the order of all floating-point numbers.
-/

namespace LiterateSite.Number

/-- What a floating-point number stands for. -/
inductive Fraction where
  | invalid
  | infinite (negative : Bool)
  /-- The number `mantissa * 2 ^ exponent`, or its opposite. -/
  | finite (negative : Bool) (mantissa : Nat) (exponent : Int)
  deriving DecidableEq, Repr, Inhabited

/-- The sign bit, the exponent and the rest of the bits of a number. -/
def fraction (x : Float) : Fraction :=
  let bits := x.toBits.toNat
  let negative := bits / Nat.pow 2 63 == 1
  let power := bits / Nat.pow 2 52 % 2048
  let rest := bits % Nat.pow 2 52
  if power == 2047 then if rest == 0 then .infinite negative else .invalid
  else if power == 0 then .finite negative rest (-1074)
  else .finite negative (Nat.pow 2 52 + rest) (Int.ofNat power - 1075)

/-- The number `mantissa * 2 ^ exponent` without its part after the point. -/
def wholePart (mantissa : Nat) (exponent : Int) : Nat :=
  if exponent ≥ 0 then mantissa * Nat.pow 2 exponent.toNat
  else mantissa / Nat.pow 2 (-exponent).toNat

/-- A number without its part after the point. -/
def truncated? (x : Float) : Option Int :=
  match fraction x with
  | .finite negative m q => some (if negative then -(wholePart m q : Int) else wholePart m q)
  | _ => none

/-- The whole number that a number is. -/
def whole? (x : Float) : Option Int :=
  match fraction x with
  | .finite negative m q =>
    if q < 0 && m % Nat.pow 2 (-q).toNat != 0 then none
    else some (if negative then -(wholePart m q : Int) else wholePart m q)
  | _ => none

/-- The floating-point number that a whole number is, if there is one. -/
def asFloat? (n : Int) : Option Float :=
  let x := Float.ofInt n
  if whole? x == some n then some x else none

/-- The floating-point number `mantissa * 2 ^ exponent` or its opposite. -/
def compose (negative : Bool) (mantissa : Nat) (exponent : Int) : Float :=
  let x := (Float.ofNat mantissa).scaleB exponent
  if negative then -x else x

/-- What is left of `x` after whole multiples of `y`; it has the sign of `x`. -/
def remainder (x y : Float) : Float :=
  match fraction x, fraction y with
  | .finite negative m q, .finite _ n r =>
    if n == 0 then 0.0 / 0.0
    else
      let low := min q r
      let left := (m * Nat.pow 2 (q - low).toNat) % (n * Nat.pow 2 (r - low).toNat)
      compose negative left low
  | .finite .., .infinite _ => x
  | _, _ => 0.0 / 0.0

/-- A number without its part after the point, as a floating-point number. -/
def truncate (x : Float) : Float := if x < 0 then x.ceil else x.floor

/-- How often `y` fits into `x`, such that what is left is not negative. -/
def floorQuotient (x y : Float) : Float :=
  let q := truncate (x / y)
  if remainder x y < 0 then if y > 0 then q - 1 else q + 1 else q

/-- The power of ten. -/
def powerOfTen (places : Nat) : Float := Float.ofScientific 1 false places

/-- Round at a place after the point, or before it if `places` is negative; a half goes away from
zero. -/
def roundTo (x : Float) (places : Int) : Float :=
  let scale := if places < 0 then 1 / powerOfTen (-places).toNat else powerOfTen places.toNat
  (scale * x).round / scale

/-- The place of a number in the order of all floating-point numbers: negative zero comes before
zero, and what is no number at the ends. -/
def rank (x : Float) : Int :=
  let bits := x.toBits.toNat
  if bits < Nat.pow 2 63 then bits else Int.pow 2 63 - 1 - bits

end LiterateSite.Number
