import LiterateSite.Template.Argument
import LiterateSite.Text.Blank

/-!
# Formats

Texts with places for values, each written as a percent sign and a letter.

* `Place`: how a value is written.
* `formatted`: a format with its values.
-/

namespace LiterateSite.Template

open Number Text

/-- How a value is written in a place. -/
structure Place where
  leftAligned : Bool := false
  plusSign : Bool := false
  blankSign : Bool := false
  zeroFilled : Bool := false
  /-- Numbers in another base show it. -/
  marked : Bool := false
  width : Nat := 0
  precision : Option Nat := none
  letter : Char := 's'
  deriving DecidableEq, Repr, Inhabited

namespace Place

/-- A text in the width of the place. -/
def padded (p : Place) (text : List Char) : List Char :=
  let blanks := List.replicate (p.width - text.length) ' '
  if p.leftAligned then text ++ blanks else blanks ++ text

/-- The sign of a number. -/
def sign (p : Place) (negative : Bool) : List Char :=
  if negative then ['-'] else if p.plusSign then ['+'] else if p.blankSign then [' '] else []

/-- Digits with a sign and a mark before them, in the width of the place. -/
def number (p : Place) (negative : Bool) (mark digits : List Char) : List Char :=
  let front := p.sign negative ++ mark
  if p.zeroFilled && !p.leftAligned then
    front ++ List.replicate (p.width - front.length - digits.length) '0' ++ digits
  else p.padded (front ++ digits)

/-- The digits of an integer, at least as many as the precision asks for. -/
def integer (p : Place) (base : Nat) (mark : String) (n : Int) : List Char :=
  let digits := Nat.toDigits base n.natAbs
  let digits := List.replicate (p.precision.getD 0 - digits.length) '0' ++ digits
  p.number (n < 0) (if p.marked then mark.toList else []) digits

/-- Without zeros at the end of the part after the point. -/
def withoutZeros (digits : List Char) : List Char :=
  if digits.contains '.' then
    let short := dropEndWhile (· == '0') digits
    if short.getLast? == some '.' then short.dropLast else short
  else digits

/-- A number in as many digits as the precision says, with a power of ten if it is very large or
small. -/
def general (p : Place) (mantissa : Nat) (exponent : Int) : List Char :=
  let digits := max 1 (p.precision.getD 6)
  let power := (leadingDigits mantissa exponent (digits - 1)).2
  let clean := if p.marked then id else withoutZeros
  if power < -4 || power ≥ digits then
    let text := powerText mantissa exponent (digits - 1)
    clean (text.takeWhile (· != 'e')) ++ text.dropWhile (· != 'e')
  else clean (fixedText mantissa exponent (digits - 1 - power).toNat)

/-- A floating-point number in a place. -/
def floating (p : Place) (x : Float) : List Char :=
  match fraction x with
  | .invalid => { p with zeroFilled := false }.number false [] "nan".toList
  | .infinite negative => { p with zeroFilled := false }.number negative [] "inf".toList
  | .finite negative m q =>
    let places := p.precision.getD 6
    let digits :=
      match p.letter.toLower with
      | 'f' => fixedText m q places
      | 'e' => powerText m q places
      | _ => p.general m q
    p.number negative [] digits

/-- The value in the place. -/
def write (p : Place) (v : Value) : Except TemplateError (List Char) :=
  let upper := fun (text : List Char) => if p.letter.isUpper then text.map Char.toUpper else text
  let short := fun (text : List Char) => (p.precision.map text.take).getD text
  match p.letter with
  | 's' => .ok (p.padded (short v.show))
  | 'r' | 'a' => .ok (p.padded (short v.inner))
  | 'd' | 'i' | 'u' =>
    match v with
    | .float x =>
      match truncated? x with
      | some n => .ok (p.integer 10 "" n)
      | none => .error .invalidOperation
    | v => do return p.integer 10 "" (← v.asInt)
  | 'x' | 'X' =>
    match v with
    | .float _ => .error .invalidOperation
    | v => do return upper (p.integer 16 "0x" (← v.asInt))
  | 'o' =>
    match v with
    | .float _ => .error .invalidOperation
    | v => do return p.integer 8 "0o" (← v.asInt)
  | 'c' =>
    match v.chars? with
    | some [c] => .ok (p.padded [c])
    | some _ => .error .invalidOperation
    | none => do
      let n ← v.asNat
      if n.isValidChar then return p.padded [Char.ofNat n] else throw .invalidOperation
  | 'e' | 'E' | 'f' | 'F' | 'g' | 'G' =>
    match v.float? with
    | some x => .ok (upper (p.floating x))
    | none => .error .invalidOperation
  | _ => .error .invalidOperation

end Place

/-- The flags at the start of a place. -/
def placeFlags : Place → List Char → Place × List Char
  | p, [] => (p, [])
  | p, c :: rest =>
    match c with
    | '-' => placeFlags { p with leftAligned := true } rest
    | '+' => placeFlags { p with plusSign := true } rest
    | ' ' => placeFlags { p with blankSign := true } rest
    | '0' => placeFlags { p with zeroFilled := true } rest
    | '#' => placeFlags { p with marked := true } rest
    | _ => (p, c :: rest)

/-- A number in a place: digits, or a star for a value. -/
def placeNumber (text : List Char) (values : List Value) :
    Except TemplateError (Option Int × List Char × List Value) :=
  match text with
  | '*' :: rest =>
    match values with
    | v :: values => do return (some (← v.asInt), rest, values)
    | [] => .error .invalidOperation
  | _ =>
    let digits := text.takeWhile Char.isDigit
    .ok (if digits.isEmpty then none else some (decimalNumber digits : Int),
      text.dropWhile Char.isDigit, values)

/-- The key in parentheses at the start of a place. -/
def placeKey? (text : List Char) : Option (List Char × List Char) :=
  match text with
  | '(' :: rest =>
    match rest.dropWhile (· != ')') with
    | _ :: after => some (rest.takeWhile (· != ')'), after)
    | [] => none
  | _ => none

/-- A place after its percent sign: the text that it becomes, the text after it, and the values that
are left. -/
def placeText (named : Entries) (text : List Char) (values : List Value) :
    Except TemplateError (List Char × List Char × List Value) := do
  let key := placeKey? text
  let text := (key.map (·.2)).getD text
  let (p, text) := placeFlags {} text
  let (width, text, values) ← placeNumber text values
  let w := width.getD 0
  let p := { p with width := w.natAbs, leftAligned := p.leftAligned || w < 0 }
  let (precision, text, values) ←
    match text with
    | '.' :: rest => do
      let (n, rest, values) ← placeNumber rest values
      pure (some (n.getD 0).toNat, rest, values)
    | _ => pure (none, text, values)
  let text := text.dropWhile fun c => c == 'h' || c == 'l' || c == 'L'
  match text with
  | [] => throw .invalidOperation
  | '%' :: rest => return (['%'], rest, values)
  | letter :: rest =>
    let p := { p with precision, letter }
    match key, values with
    | some (name, _), _ =>
      match Value.entry? named (.text name) with
      | some v => return (← p.write v, rest, values)
      | none => throw .invalidOperation
    | none, v :: values => return (← p.write v, rest, values)
    | none, [] => throw .invalidOperation

/-- A format with its values; `fuel` is more than its length. -/
def formattedFrom (named : Entries) :
    Nat → List Char → List Value → Except TemplateError (List Char)
  | 0, _, _ => .error .invalidOperation
  | _ + 1, [], values => if values.isEmpty then .ok [] else .error .invalidOperation
  | fuel + 1, '%' :: rest, values => do
    let (written, rest, values) ← placeText named rest values
    return written ++ (← formattedFrom named fuel rest values)
  | fuel + 1, c :: rest, values => do return c :: (← formattedFrom named fuel rest values)

/-- A format with values by position or by name. -/
def formatted (format : List Char) (a : Arguments) : Except TemplateError (List Char) :=
  let (values, named) := a.splitNamed
  if !values.isEmpty && !named.isEmpty then .error .invalidOperation
  else formattedFrom named (format.length + 1) format values

end LiterateSite.Template
