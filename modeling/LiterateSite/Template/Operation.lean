import LiterateSite.Template.Error
import LiterateSite.Template.Show

/-!
# Operators

What the operators of expressions give.

* `BinaryOp`, `binaryValue`: operators between two values.
* `Comparison`, `compareValues`: comparisons.
* `contains`: a value is in another.
* `sliceOf`: a part of a value.
-/

namespace LiterateSite.Template

open Number

/-- Operators between two values. -/
inductive BinaryOp where
  | add | sub | mul | div | floorDiv | mod | pow | concat
  deriving DecidableEq, Repr, Inhabited

/-- Comparisons of two values. -/
inductive Comparison where
  | eq | ne | lt | le | gt | ge | isIn | notIn
  deriving DecidableEq, Repr, Inhabited

/-- Integers have 128 bits. -/
def fits (n : Int) : Bool := -Int.pow 2 127 ≤ n && n < Int.pow 2 127

/-- An integer as a value, if it is not too large. -/
def intValue (n : Int) : Except TemplateError Value :=
  if fits n then .ok (.int n) else .error .invalidOperation

/-- Two values as integers or as floating-point numbers. -/
inductive Numbers where
  | ints (n m : Int)
  | floats (x y : Float)
  deriving Repr, Inhabited

/-- Two values as numbers of one kind. -/
def numbers? (a b : Value) : Option Numbers :=
  if a.isFloat || b.isFloat then
    match a.float?, b.float? with
    | some x, some y => some (.floats x y)
    | _, _ => none
  else
    match a.int?, b.int? with
    | some n, some m => if fits n && fits m then some (.ints n m) else none
    | _, _ => none

/-- Arithmetic on numbers. -/
def arithmetic (ints : Int → Int → Except TemplateError Value) (floats : Float → Float → Float)
    (a b : Value) : Except TemplateError Value :=
  match numbers? a b with
  | some (.ints n m) => ints n m
  | some (.floats x y) => .ok (.float (floats x y))
  | none => .error .invalidOperation

/-- How often something is repeated. -/
def repetitions (v : Value) : Except TemplateError Nat :=
  match v.int? with
  | some (.ofNat n) => .ok n
  | _ => .error .invalidOperation

/-- Items repeated so many times. -/
def repeatedItems {α : Type} (n : Nat) (items : List α) : List α :=
  (List.replicate n items).flatten

/-- The product of two values: of numbers, or of a text or list and a number. -/
def product (a b : Value) : Except TemplateError Value :=
  match a.chars?, b.chars? with
  | some chars, _ => do return .text (repeatedItems (← repetitions b) chars)
  | none, some chars => do return .text (repeatedItems (← repetitions a) chars)
  | none, none =>
    match a.held?, b.held? with
    | some items, _ => do return .lazy (repeatedItems (← repetitions b) items)
    | none, some items => do return .lazy (repeatedItems (← repetitions a) items)
    | none, none => arithmetic (fun n m => intValue (n * m)) (· * ·) a b

/-- The sum of two values: of numbers, texts or lists. -/
def sum (a b : Value) : Except TemplateError Value :=
  match a, b with
  | .list _ as, .list _ bs => .ok (.lazy (as ++ bs))
  | _, _ =>
    match a.chars?, b.chars? with
    | some as, some bs => .ok (.text (as ++ bs))
    | _, _ => arithmetic (fun n m => intValue (n + m)) (· + ·) a b

/-- A power of integers; it has at most 128 bits. -/
def power (n m : Int) : Except TemplateError Value :=
  if m < 0 || Int.pow 2 32 ≤ m then .error .invalidOperation
  else if n.natAbs ≤ 1 then .ok (.int (n.pow (m.toNat % 2 + if m == 0 then 0 else 2)))
  else if m > 127 then .error .invalidOperation
  else intValue (n.pow m.toNat)

/-- The value of an operator between two values. -/
def binaryValue (op : BinaryOp) (a b : Value) : Except TemplateError Value :=
  match op with
  | .add => sum a b
  | .sub => arithmetic (fun n m => intValue (n - m)) (· - ·) a b
  | .mul => product a b
  | .div =>
    match a.float?, b.float? with
    | some x, some y => .ok (.float (x / y))
    | _, _ => .error .invalidOperation
  | .floorDiv =>
    arithmetic (fun n m => if m == 0 then .error .invalidOperation else intValue (n / m))
      floorQuotient a b
  | .mod =>
    arithmetic (fun n m => if m == 0 then .error .invalidOperation else intValue (n % m))
      remainder a b
  | .pow => arithmetic power Float.pow a b
  | .concat => .ok (.text (a.show ++ b.show))

/-- The opposite of a number. -/
def opposite (v : Value) : Except TemplateError Value :=
  match v with
  | .int n =>
    if n == Int.pow 2 127 then .ok (.int (-n))
    else if fits n then intValue (-n)
    else .error .invalidOperation
  | .float x => .ok (.float (-x))
  | _ => .error .invalidOperation

/-! ## Comparisons -/

/-- The word stands somewhere in the text. -/
def occursIn (word : List Char) : List Char → Bool
  | [] => word.isEmpty
  | c :: rest => word.isPrefixOf (c :: rest) || occursIn word rest

/-- A value is in another. -/
def contains (container v : Value) : Except TemplateError Bool :=
  match container with
  | .undefined => .ok false
  | .text chars | .safe chars => .ok (occursIn v.show chars)
  | .list _ items => .ok (items.any (·.same v))
  | .map _ entries => .ok (Value.entry? entries v).isSome
  | .loop .. => .ok (container.item? v).isSome
  | .routine _ | .function _ => .ok false
  | _ => .error .invalidOperation

/-- The answer of a comparison. -/
def compareValues (op : Comparison) (a b : Value) : Except TemplateError Bool :=
  match op with
  | .eq => .ok (a.same b)
  | .ne => .ok (!a.same b)
  | .lt => .ok (a.order b == .lt)
  | .le => .ok (a.order b != .gt)
  | .gt => .ok (a.order b == .gt)
  | .ge => .ok (a.order b != .lt)
  | .isIn => contains b a
  | .notIn => (contains b a).map (!·)

/-! ## Parts -/

/-- A bound of a part; none if it is left out. -/
def boundOf (v : Value) : Except TemplateError (Option Int) :=
  match v with
  | .none => .ok none
  | v =>
    match v.int? with
    | some n => .ok (some n)
    | none => .error .invalidOperation

/-- A bound counted from the start, or from the end if it is negative; one before the start counts as
one far behind the end. -/
def placeOf (length : Nat) (bound : Int) : Nat :=
  if 0 ≤ bound then bound.toNat
  else if 0 ≤ bound + length then (bound + length).toNat
  else Nat.pow 2 64 - (-(bound + length)).toNat

/-- The places from one on, before another, in steps. -/
def placesForward (length : Nat) (first last : Option Int) (step : Nat) : List Nat :=
  let start := placeOf length (first.getD 0)
  let stop := min length ((last.map (placeOf length)).getD length)
  (List.range ((stop - start + step - 1) / step)).map fun i => start + step * i

/-- The places from one on back to another, in steps. The first place of all is never left out, and
stands as the start for the last one. -/
def placesBackward (length : Nat) (first last : Option Int) (step : Nat) : List Nat :=
  let start :=
    match first with
    | none | some 0 => length - 1
    | some n => if n ≥ length then length - 1 else placeOf length n
  let stop := (last.map (placeOf length)).getD 0
  if length ≤ start || start < stop then []
  else
    let count := if stop == 0 then (start + step) / step else (start - stop + step - 1) / step
    (List.range count).map fun i => start - step * i

/-- The places of a part, in steps forward or backward. -/
def partPlaces (length : Nat) (first last : Option Int) (step : Int) : List Nat :=
  if step > 0 then placesForward length first last step.toNat
  else placesBackward length first last (-step).toNat

/-- The items at places. -/
def itemsAt {α : Type} (items : List α) (places : List Nat) : List α :=
  let items := items.toArray
  places.filterMap (items[·]?)

/-- The part of a value between two bounds. -/
def sliceOf (v first last step : Value) : Except TemplateError Value := do
  let first ← boundOf first
  let last ← boundOf last
  let step := (← boundOf step).getD 1
  if step == 0 then throw .invalidOperation
  match v with
  | .undefined | .none => return .stored []
  | .list _ items => return .lazy (itemsAt items (partPlaces items.length first last step))
  | .text chars | .safe chars =>
    return .text (itemsAt chars (partPlaces chars.length first last step))
  | _ => throw .invalidOperation

end LiterateSite.Template
