import LiterateSite.Text.Blank
import LiterateSite.Text.Number

/-!
# Amounts in style sheets

* `Amount`: a number in base ten.
* `Amount.read`: the number that digits write.
* `Amount.text`: its shortest text, with six digits at most.
-/

namespace LiterateSite.Style

open Text

/-- The number `digits * 10 ^ power`, or its negative. -/
structure Amount where
  negative : Bool
  digits : Nat
  power : Int
  deriving DecidableEq, Repr, Inhabited

namespace Amount

/-- The number that digits with a sign, a point and an exponent write. -/
def read (text : List Char) : Amount :=
  let negative := text.head? == some '-'
  let body := if negative || text.head? == some '+' then text.drop 1 else text
  let mantissa := body.takeWhile (· != 'e')
  let whole := mantissa.takeWhile (· != '.')
  let fraction := (mantissa.drop whole.length).drop 1
  let exponent := (body.drop mantissa.length).drop 1
  let power : Int :=
    match exponent with
    | '-' :: ds => -decimalNumber ds
    | '+' :: ds => decimalNumber ds
    | ds => decimalNumber ds
  { negative, digits := decimalNumber (whole ++ fraction), power := power - fraction.length }

def isZero (a : Amount) : Bool := a.digits == 0

def toFloat (a : Amount) : Float :=
  let size :=
    if a.power < 0 then Float.ofScientific a.digits true a.power.natAbs
    else Float.ofScientific a.digits false a.power.natAbs
  if a.negative then -size else size

/-- Ten times as often as `n` says. -/
def shift (a : Amount) (n : Int) : Amount := { a with power := a.power + n }

def neg (a : Amount) : Amount := { a with negative := !a.negative }

/-- The number without its sign, in units of `10 ^ power`. -/
def scaled (a : Amount) (power : Int) : Int :=
  let n : Int := a.digits * Int.pow 10 (a.power - power).toNat
  if a.negative then -n else n

def add (a b : Amount) : Amount :=
  let power := min a.power b.power
  let n := a.scaled power + b.scaled power
  { negative := n < 0, digits := n.natAbs, power }

def mul (a b : Amount) : Amount :=
  { negative := a.negative != b.negative, digits := a.digits * b.digits, power := a.power + b.power }

/-- The quotient of two numbers with more places than are ever written; none by zero. -/
def div? (a b : Amount) : Option Amount :=
  if b.isZero then none
  else
    some { negative := a.negative != b.negative
           digits := a.digits * Nat.pow 10 24 / b.digits
           power := a.power - b.power - 24 }

/-- The number with six digits at most, the last one rounded. -/
def rounded (a : Amount) : Amount :=
  let extra := (Nat.toDigits 10 a.digits).length - 6
  if extra == 0 then a
  else
    { a with
      digits := (a.digits + Nat.pow 10 extra / 2) / Nat.pow 10 extra
      power := a.power + extra }

/-- The digits with a point before the last `places` of them, without zeros that say nothing. -/
def withPoint (ds : List Char) (places : Nat) : List Char :=
  let padded := List.replicate (places - ds.length) '0' ++ ds
  let whole := (padded.take (padded.length - places)).dropWhile (· == '0')
  let fraction := dropEndWhile (· == '0') (padded.drop (padded.length - places))
  whole ++ (if fraction.isEmpty then [] else '.' :: fraction)

/-- The shortest text of a number. -/
def text (a : Amount) : List Char :=
  let a := a.rounded
  if a.isZero then ['0']
  else
    let ds := Nat.toDigits 10 a.digits
    let body :=
      if a.power < 0 then withPoint ds a.power.natAbs else ds ++ List.replicate a.power.natAbs '0'
    if a.negative then '-' :: body else body

/-- The sizes are in order. -/
def lt (a b : Amount) : Bool :=
  let power := min a.power b.power
  decide (a.scaled power < b.scaled power)

end Amount

end LiterateSite.Style
