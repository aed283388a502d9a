import LiterateSite.Style.Plain

/-!
# Sums of amounts

Amounts that a style sheet lets the browser add up.

* `Sum`: an amount for each unit, in the order of their first appearance.
* `sum?`: the sum that pieces write.
* `Sum.text`: a sum in its shortest form.
-/

namespace LiterateSite.Style

/-- An amount for each unit. -/
abbrev Sum := List (List Char × Amount)

namespace Sum

/-- One more amount; amounts of one unit are added up. -/
def insert (unit : List Char) (a : Amount) : Sum → Sum
  | [] => [(unit, a)]
  | (u, b) :: rest => if u == unit then (u, b.add a) :: rest else (u, b) :: insert unit a rest

def add (s t : Sum) : Sum := t.foldl (fun s (unit, a) => insert unit a s) s

def scale (f : Amount → Amount) (s : Sum) : Sum := s.map fun (unit, a) => (unit, f a)

/-- The number of a sum without units. -/
def number? : Sum → Option Amount
  | [([], a)] => some a
  | _ => none

def mul? (s t : Sum) : Option Sum :=
  match number? s, number? t with
  | some a, _ => some (scale a.mul t)
  | none, some b => some (scale b.mul s)
  | none, none => none

def div? (s t : Sum) : Option Sum :=
  (number? t).bind fun b => s.mapM fun (unit, a) => (a.div? b).map (unit, ·)

/-- An amount with its unit; a length of zero has none. -/
def amountText (unit : List Char) (a : Amount) : List Char :=
  if a.isZero && isLengthUnit unit then ['0'] else a.text ++ unit

/-- A sum of several amounts, the first one with its sign and the others added or taken away. -/
def terms : Sum → List Char
  | [] => []
  | (unit, a) :: rest =>
    amountText unit a ++ rest.flatMap fun (unit, a) =>
      if a.negative then " - ".toList ++ amountText unit a.neg else " + ".toList ++ amountText unit a

/-- A sum without amounts of zero; of two amounts a negative one stands last. -/
def tidy (s : Sum) : Sum :=
  match s with
  | [_] => s
  | _ =>
    match s.filter fun (_, a) => !a.isZero with
    | [] => s.take 1
    | [(u, a), (v, b)] => if a.negative && !b.negative then [(v, b), (u, a)] else [(u, a), (v, b)]
    | s => s

/-- A sum in its shortest form inside another function. -/
def bare (s : Sum) : List Char := terms (tidy s)

/-- A sum in its shortest form. -/
def text (s : Sum) : List Char :=
  match tidy s with
  | [(unit, a)] => amountText unit a
  | s => "calc(".toList ++ terms s ++ [')']

end Sum

/-- Pieces between marks, each with the mark before it. -/
def operands (marks : List Char) (first : Char) : List Piece → List (Char × List Piece)
  | [] => [(first, [])]
  | p :: rest =>
    match marks.find? p.isMark with
    | some c => (first, []) :: operands marks c rest
    | none =>
      match operands marks first rest with
      | (c, part) :: parts => (c, p :: part) :: parts
      | [] => [(first, [p])]

mutual

/-- The sum that a number or a bracket writes; `fuel` is more than the depth of the brackets. -/
def factor? : Nat → List Piece → Option Sum
  | 0, _ => none
  | fuel + 1, ps =>
    match ps with
    | [.token (.number digits unit)] => some [(lower unit, Amount.read digits)]
    | [.bracket '(' inside] => sumFrom? fuel (words inside)
    | [.call name inside] => if lower name == "calc".toList then sumFrom? fuel (words inside) else none
    | _ => none

/-- The sum that pieces without blanks write. -/
def sumFrom? : Nat → List Piece → Option Sum
  | 0, _ => none
  | fuel + 1, ps =>
    let product? := fun (ps : List Piece) =>
      (operands ['*', '/'] '*' ps).foldlM (fun (s : Sum) (sign, part) =>
        (factor? fuel part).bind fun t => if sign == '*' then s.mul? t else s.div? t)
        [([], { negative := false, digits := 1, power := 0 })]
    (operands ['+', '-'] '+' ps).foldlM (fun (s : Sum) (sign, part) =>
      (product? part).map fun t => s.add (if sign == '-' then t.scale Amount.neg else t)) []

end

/-- The sum that pieces write, if they write one. -/
def sum? (ps : List Piece) : Option Sum := sumFrom? (2 * Piece.sizes ps + 2) (words ps)

end LiterateSite.Style
