import LiterateSite.Text.Blank
import LiterateSite.Text.Number
import LiterateSite.Shell.State

/-!
# Numbers in scripts

* `integer?`: the number that a text writes.
* `ArithmeticError`: why an expression has no value.
* `calculate`: the value of an arithmetic expression, which may give values to variables.
-/

namespace LiterateSite.Shell

open Text

/-- The number that a text writes. -/
def integer? (text : List Char) : Option Int :=
  match trim text with
  | '-' :: digits => if digits.isEmpty || !digits.all Char.isDigit then none else some (-(decimalNumber digits : Int))
  | '+' :: digits | digits =>
    if digits.isEmpty || !digits.all Char.isDigit then none else some (decimalNumber digits : Int)

/-- Why an expression has no value. -/
inductive ArithmeticError where
  | expected (what : String)
  | divisionByZero
  | illegalNumber (text : List Char)
  deriving DecidableEq, Repr, Inhabited

/-- The wording of an error about an expression. -/
def ArithmeticError.message (expression : List Char) : ArithmeticError → List Char
  | .illegalNumber text => "Illegal number: ".toList ++ text
  | .expected what => about ("expecting " ++ what)
  | .divisionByZero => about "division by zero"
where
  about (text : String) : List Char :=
    ("arithmetic expression: " ++ text ++ ": \"").toList ++ expression ++ ['"']

namespace Arithmetic

/-- Where the reading of an expression stands. -/
structure Cursor where
  rest : List Char
  shell : State

/-- Steps of a calculation. -/
abbrev Calculation := StateT Cursor (Except ArithmeticError)

/-- Numbers have 64 bits. -/
def wrap (n : Int) : Int := n.bmod (Nat.pow 2 64)

/-- One for true and zero for false. -/
def flag (b : Bool) : Int := if b then 1 else 0

/-- The operators between operands, the loosest first. -/
def precedence : List (List String) :=
  [["||"], ["&&"], ["|"], ["^"], ["&"], ["==", "!="], ["<", "<=", ">", ">="], ["<<", ">>"],
    ["+", "-"], ["*", "/", "%"]]

/-- The operators that give a value to a variable. -/
def assignments : List String :=
  ["=", "*=", "/=", "%=", "+=", "-=", "<<=", ">>=", "&=", "^=", "|="]

/-- All signs, the longer ones first. -/
def signs : List String :=
  ["<<=", ">>="] ++ ["||", "&&", "==", "!=", "<=", ">=", "<<", ">>"]
    ++ ["*=", "/=", "%=", "+=", "-=", "&=", "^=", "|="]
    ++ ["|", "^", "&", "<", ">", "+", "-", "*", "/", "%", "?", ":", "=", "(", ")", "!", "~"]

/-- A number as the bits of a natural one. -/
def bits (n : Int) : Nat := (n % Int.pow 2 64).toNat

/-- What an operator makes of two numbers. -/
def apply (sign : String) (a b : Int) : Except ArithmeticError Int :=
  match sign with
  | "||" => .ok (flag (a != 0 || b != 0))
  | "&&" => .ok (flag (a != 0 && b != 0))
  | "|" => .ok (wrap (bits a ||| bits b : Nat))
  | "^" => .ok (wrap (bits a ^^^ bits b : Nat))
  | "&" => .ok (wrap (bits a &&& bits b : Nat))
  | "==" => .ok (flag (a == b))
  | "!=" => .ok (flag (a != b))
  | "<" => .ok (flag (a < b))
  | "<=" => .ok (flag (a ≤ b))
  | ">" => .ok (flag (a > b))
  | ">=" => .ok (flag (a ≥ b))
  | "<<" => .ok (wrap (a * Int.pow 2 (bits b % 64)))
  | ">>" => .ok (a.fdiv (Int.pow 2 (bits b % 64)))
  | "+" => .ok (wrap (a + b))
  | "-" => .ok (wrap (a - b))
  | "*" => .ok (wrap (a * b))
  | "/" => if b == 0 then .error .divisionByZero else .ok (wrap (a.tdiv b))
  | "%" => if b == 0 then .error .divisionByZero else .ok (a.tmod b)
  | _ => .ok b

/-- The rest of the expression, past blanks. -/
def upcoming : Calculation (List Char) := do
  let rest := trimStart (← get).rest
  modify fun s => { s with rest }
  return rest

/-- Go past some characters. -/
def skip (n : Nat) : Calculation Unit := modify fun s => { s with rest := s.rest.drop n }

/-- The sign that comes next. -/
def sign? : Calculation (Option String) := do
  let rest ← upcoming
  return signs.find? fun s => s.toList.isPrefixOf rest

/-- Go past a sign, if it is the next one of a list. -/
def accept? (wanted : List String) : Calculation (Option String) := do
  match ← sign? with
  | some s =>
    if wanted.contains s then
      skip s.length
      return some s
    else return none
  | none => return none

/-- Go past a sign, which has to come next. -/
def require (sign : String) (what : String) : Calculation Unit := do
  if (← accept? [sign]).isNone then throw (.expected what)

/-- The value of a constant, and its length: a leading zero makes it one in base eight. -/
def constantOf (text : List Char) : Int × Nat :=
  match text with
  | '0' :: x :: rest =>
    let hex := rest.takeWhile fun c => (hexValue? c).isSome
    if (x == 'x' || x == 'X') && !hex.isEmpty then
      (((hexNumber? hex).getD 0 : Nat), hex.length + 2)
    else
      let digits := (x :: rest).takeWhile fun c => '0' ≤ c && c ≤ '7'
      ((digits.foldl (fun n c => n * 8 + (c.toNat - '0'.toNat)) 0 : Nat), digits.length + 1)
  | _ =>
    let digits := text.takeWhile Char.isDigit
    ((decimalNumber digits : Nat), digits.length)

/-- The value of a text that a variable holds. -/
def valueOfText (text : List Char) : Except ArithmeticError Int :=
  let chars := trim text
  let (negative, digits) :=
    match chars with
    | '-' :: digits => (true, digits)
    | '+' :: digits => (false, digits)
    | digits => (false, digits)
  if chars.isEmpty then .ok 0
  else if !digits.head?.any Char.isDigit then .error (.illegalNumber text)
  else
    let (n, length) := constantOf digits
    if length == digits.length then .ok (wrap (if negative then -n else n))
    else .error (.illegalNumber text)

/-- The name of a variable at the start of a text. -/
def name (text : List Char) : List Char :=
  if text.head?.any fun c => c.isAlpha || c == '_' then
    text.takeWhile fun c => c.isAlphanum || c == '_'
  else []

/-- The value of a variable; one that is not set is zero. -/
def valueOf (name : List Char) : Calculation Int := do
  match valueOfText ((← get).shell.lookup name) with
  | .ok v => return v
  | .error e => throw e

/-- What an operator makes of two numbers, if that matters. -/
def combine (live : Bool) (sign : String) (a b : Int) : Calculation Int := do
  match apply sign a b with
  | .ok v => return v
  | .error e => if live then throw e else return 0

mutual

/-- An expression that may give a value to a variable. Without `live` nothing changes and no
division fails. -/
def assignment : Nat → Bool → Calculation Int
  | 0, _ => throw (.expected "primary")
  | fuel + 1, live => do
    let text ← upcoming
    let target := name text
    let before ← get
    if target.isEmpty then conditional fuel live
    else
      skip target.length
      match ← accept? assignments with
      | none =>
        set before
        conditional fuel live
      | some s =>
        let b ← assignment fuel live
        let v ← if s == "=" then pure b else combine live (String.ofList s.toList.dropLast) (← valueOf target) b
        if live then
          modify fun c => { c with shell := c.shell.assign target (toString v).toList }
        return v

/-- An expression that may be a choice between two. -/
def conditional : Nat → Bool → Calculation Int
  | 0, _ => throw (.expected "primary")
  | fuel + 1, live => do
    let test ← operation fuel live precedence
    match ← accept? ["?"] with
    | none => return test
    | some _ =>
      let yes ← assignment fuel (live && test != 0)
      require ":" "':'"
      let no ← conditional fuel (live && test == 0)
      return if test != 0 then yes else no

/-- Operands with operators between them, none looser than those of the levels. -/
def operation : Nat → Bool → List (List String) → Calculation Int
  | 0, _, _ => throw (.expected "primary")
  | fuel + 1, live, [] => operand fuel live
  | fuel + 1, live, level :: tighter => do
    let first ← operation fuel live tighter
    further fuel live level tighter first

/-- The operators of a level after their first operand. -/
def further : Nat → Bool → List String → List (List String) → Int → Calculation Int
  | 0, _, _, _, _ => throw (.expected "primary")
  | fuel + 1, live, level, tighter, a => do
    match ← accept? level with
    | none => return a
    | some s =>
      let needed := if s == "||" then a == 0 else if s == "&&" then a != 0 else true
      let b ← operation fuel (live && needed) tighter
      further fuel live level tighter (← combine live s a b)

/-- A number, a variable, or an expression in parentheses. -/
def operand : Nat → Bool → Calculation Int
  | 0, _ => throw (.expected "primary")
  | fuel + 1, live => do
    let text ← upcoming
    match ← accept? ["(", "!", "~", "-", "+"] with
    | some "(" =>
      let v ← assignment fuel live
      require ")" "')'"
      return v
    | some "!" => return flag ((← operand fuel live) == 0)
    | some "~" => return -(← operand fuel live) - 1
    | some "-" => return wrap (-(← operand fuel live))
    | some _ => operand fuel live
    | none =>
      if text.head?.any Char.isDigit then
        let (n, length) := constantOf text
        skip length
        return wrap n
      else
        let target := name text
        if target.isEmpty then throw (.expected "primary")
        skip target.length
        valueOf target

end

end Arithmetic

/-- The value of an arithmetic expression, and the state that it leaves. An empty expression is
zero. -/
def calculate (st : State) (text : List Char) : Except ArithmeticError (Int × State) := do
  if (trim text).isEmpty then return (0, st)
  let (v, cursor) ← (Arithmetic.assignment (16 * (text.length + 2)) true).run { rest := text, shell := st }
  if (trimStart cursor.rest).isEmpty then return (v, cursor.shell) else throw (.expected "EOF")

end LiterateSite.Shell
