import LiterateSite.Number.Binary
import LiterateSite.Text.Case

/-!
# Template values

* `Value`: what the expressions of a template evaluate to.
* `Value.truth`: a value counts as true.
* `Value.same`, `Value.order`: equality, and the order of all values. They differ: the number one
  equals true, and comes after it.
* `Value.items?`, `Value.length?`, `Value.item?`: what is in a value.
-/

namespace LiterateSite.Template

open Number

/-- How the items of a list are at hand. -/
inductive ListForm where
  /-- They are written down or gathered. -/
  | stored
  /-- They are made while the list is gone through. -/
  | lazy
  /-- A key and the items that have it. -/
  | group
  deriving DecidableEq, Repr, Inhabited

/-- What a mapping is used as. -/
inductive MapForm where
  | plain
  /-- The named arguments of a call. -/
  | named
  /-- What another template assigns, with the text that it writes. -/
  | module (text : List Char)
  deriving DecidableEq, Repr, Inhabited

/-- Where a loop stands. -/
structure LoopPlace where
  /-- The number that tells the loop from others. -/
  id : Nat
  /-- How many items have been gone through before. -/
  index : Nat
  length : Nat
  /-- How many recursive loops are around it. -/
  depth : Nat
  deriving DecidableEq, Repr, Inhabited

/-- What is known of a macro without running it. -/
structure Routine where
  id : Nat
  name : List Char
  parameters : List (List Char)
  /-- It asks for the macro that stands within a call. -/
  usesCaller : Bool
  deriving DecidableEq, Repr, Inhabited

/-- A value in a template. -/
inductive Value where
  | undefined
  | none
  | bool (b : Bool)
  | int (n : Int)
  | float (x : Float)
  | text (chars : List Char)
  /-- Text that is markup already. -/
  | safe (chars : List Char)
  | list (form : ListForm) (items : List Value)
  | map (form : MapForm) (entries : List (Value × Value))
  | loop (place : LoopPlace) (previous next : Value)
  | routine (r : Routine)
  /-- A function that every template knows. -/
  | function (name : List Char)
  /-- A mapping that is assigned to; the number is its place in the state. -/
  | space (id : Nat)
  deriving Repr, Inhabited

/-- Entries of a mapping. -/
abbrev Entries := List (Value × Value)

namespace Value

def ofString (s : String) : Value := .text s.toList

def stored (items : List Value) : Value := .list .stored items

def lazy (items : List Value) : Value := .list .lazy items

/-- The text of a value that is one. -/
def chars? : Value → Option (List Char)
  | .text chars | .safe chars => some chars
  | _ => Option.none

/-- The integer that a value stands for. -/
def int? : Value → Option Int
  | .bool b => some (if b then 1 else 0)
  | .int n => some n
  | .float x => whole? x
  | _ => Option.none

/-- The floating-point number next to a value. -/
def float? : Value → Option Float
  | .bool b => some (if b then 1 else 0)
  | .int n => some (Float.ofInt n)
  | .float x => some x
  | _ => Option.none

/-- Undefined, or the value that stands for nothing. -/
def isNothing : Value → Bool
  | .undefined | .none => true
  | _ => false

def isUndefined : Value → Bool
  | .undefined => true
  | _ => false

def isSafe : Value → Bool
  | .safe _ => true
  | _ => false

def isFloat : Value → Bool
  | .float _ => true
  | _ => false

/-- The kinds of values, in the order of values of different kinds. -/
inductive Kind where
  | undefined | none | bool | number | text | list | map | lazy | callable
  deriving DecidableEq, Repr, Inhabited

def kind : Value → Kind
  | .undefined => .undefined
  | .none => .none
  | .bool _ => .bool
  | .int _ | .float _ => .number
  | .text _ | .safe _ => .text
  | .list .lazy _ => .lazy
  | .list _ _ => .list
  | .map .. | .loop .. | .space _ => .map
  | .routine _ | .function _ => .callable

/-- A value that counts as true. -/
def truth : Value → Bool
  | .undefined | .none => false
  | .bool b => b
  | .int n => n != 0
  | .float x => x != 0
  | .text chars | .safe chars => !chars.isEmpty
  | .list _ items => !items.isEmpty
  | .map _ entries => !entries.isEmpty
  | .loop .. | .routine _ | .function _ | .space _ => true

/-! ## Equality -/

/-- The numbers are equal, if both values are numbers. -/
def sameNumber? (a b : Value) : Option Bool :=
  match a, b with
  | .float x, .float y => some (x == y)
  | .float x, b => b.int?.map fun n => asFloat? n == some x
  | a, .float y => a.int?.map fun n => asFloat? n == some y
  | a, b =>
    match a.int?, b.int? with
    | some n, some m => some (n == m)
    | _, _ => Option.none

mutual

/-- Two values are equal. -/
def same : Value → Value → Bool
  | .undefined, .undefined => true
  | .none, .none => true
  | .text a, .text b | .text a, .safe b | .safe a, .text b | .safe a, .safe b => a == b
  | .list _ a, .list _ b => sameItems a b
  | .map _ a, .map _ b => a.length == b.length && sameEntries a b
  | .loop a _ _, .loop b _ _ => a.id == b.id
  | .routine a, .routine b => a.id == b.id
  | .function a, .function b => a == b
  | .space a, .space b => a == b
  | a, b => (sameNumber? a b).getD false

def sameItems : List Value → List Value → Bool
  | [], [] => true
  | a :: as, b :: bs => same a b && sameItems as bs
  | _, _ => false

/-- Each of the first entries is among the second ones. -/
def sameEntries : List (Value × Value) → List (Value × Value) → Bool
  | [], _ => true
  | (k, a) :: as, bs => bs.any (fun (l, b) => same k l && same a b) && sameEntries as bs

end

/-! ## Order -/

/-- The order of two numbers or truth values. -/
def numberOrder (a b : Value) : Ordering :=
  if a.isFloat || b.isFloat then
    match a.float?, b.float? with
    | some x, some y => compare (rank x) (rank y)
    | _, _ => .eq
  else
    match a.int?, b.int? with
    | some n, some m => compare n m
    | _, _ => .eq

/-- The order of texts by their code points. -/
def textOrder (a b : List Char) : Ordering :=
  match a, b with
  | [], [] => .eq
  | [], _ :: _ => .lt
  | _ :: _, [] => .gt
  | c :: as, d :: bs => (compare c.toNat d.toNat).then (textOrder as bs)

mutual

/-- The order of all values: by kind, then by what is in them. -/
def order : Value → Value → Ordering
  | .list f a, .list g b =>
    if (Value.list f []).kind == (Value.list g []).kind then orderItems a b
    else compare (Value.list f []).kind.ctorIdx (Value.list g []).kind.ctorIdx
  | .map _ a, .map _ b => orderEntries a b
  | .text a, .text b | .text a, .safe b | .safe a, .text b | .safe a, .safe b => textOrder a b
  | a, b =>
    if a.kind == b.kind then numberOrder a b else compare a.kind.ctorIdx b.kind.ctorIdx

def orderItems : List Value → List Value → Ordering
  | [], [] => .eq
  | [], _ :: _ => .lt
  | _ :: _, [] => .gt
  | a :: as, b :: bs => (order a b).then (orderItems as bs)

def orderEntries : List (Value × Value) → List (Value × Value) → Ordering
  | [], [] => .eq
  | [], _ :: _ => .lt
  | _ :: _, [] => .gt
  | (k, a) :: as, (l, b) :: bs => ((order k l).then (order a b)).then (orderEntries as bs)

end

/-- The order of two values, in which case does not count in texts unless it is asked for. -/
def orderBy (caseCounts : Bool) (a b : Value) : Ordering :=
  match a.chars?, b.chars? with
  | some s, some t =>
    if caseCounts then textOrder s t else textOrder (Text.toLower s) (Text.toLower t)
  | _, _ => a.order b

/-! ## Mappings -/

/-- The value of a key. -/
def entry? (entries : Entries) (key : Value) : Option Value :=
  (entries.find? fun (k, _) => k.order key == .eq).map (·.2)

/-- Put an entry into a mapping, in place of one with the same key. -/
def insertEntry (key v : Value) : Entries → Entries
  | [] => [(key, v)]
  | (k, w) :: rest =>
    match key.order k with
    | .lt => (key, v) :: (k, w) :: rest
    | .eq => (k, v) :: rest
    | .gt => (k, w) :: insertEntry key v rest

/-- A mapping of entries in the order of their keys; of entries with one key the last counts. -/
def mapOf (entries : Entries) : Value :=
  .map .plain (entries.foldl (fun acc (key, v) => insertEntry key v acc) [])

/-- A mapping of named fields in their order. -/
def record (fields : List (String × Value)) : Value :=
  .map .plain (fields.map fun (name, v) => (ofString name, v))

/-! ## Items -/

/-- The numbers that tell where a loop stands. -/
def loopFields (place : LoopPlace) (previous next : Value) : List (String × Value) :=
  [("index0", .int place.index), ("index", .int (place.index + 1)),
    ("length", .int place.length), ("revindex", .int (place.length - place.index : Nat)),
    ("revindex0", .int (place.length - place.index - 1 : Nat)),
    ("first", .bool (place.index == 0)), ("last", .bool (place.index + 1 == place.length)),
    ("depth", .int (place.depth + 1)), ("depth0", .int place.depth),
    ("previtem", previous), ("nextitem", next)]

/-- What a macro tells of itself. -/
def routineFields (r : Routine) : List (String × Value) :=
  [("name", .text r.name), ("arguments", stored (r.parameters.map .text)),
    ("caller", .bool r.usesCaller)]

/-- The value of a named field. -/
def fieldOf? (fields : List (String × Value)) (key : Value) : Option Value :=
  key.chars?.bind fun name => fields.lookup (String.ofList name)

/-- What a loop over the value goes through. -/
def items? : Value → Option (List Value)
  | .undefined | .none => some []
  | .list _ items => some items
  | .map _ entries => some (entries.map (·.1))
  | .loop place previous next => some ((loopFields place previous next).map fun (name, _) => ofString name)
  | .text chars | .safe chars => some (chars.map fun c => .text [c])
  | _ => Option.none

/-- What a loop over a value that is no text and not nothing goes through. -/
def held? : Value → Option (List Value)
  | .list form items => (Value.list form items).items?
  | .map form entries => (Value.map form entries).items?
  | .loop place previous next => (Value.loop place previous next).items?
  | _ => Option.none

/-- The number of things in a value. -/
def length? : Value → Option Nat
  | .text chars | .safe chars => some chars.length
  | v => v.held?.map List.length

/-- A place counted from the start, or from the end if it is negative. -/
def place? (length : Nat) (key : Value) : Option Nat :=
  key.int?.bind fun n =>
    if n < 0 then if (length : Int) + n < 0 then Option.none else some ((length : Int) + n).toNat
    else some n.toNat

/-- The thing in a value at a key, if there is one. -/
def item? (v key : Value) : Option Value :=
  match v with
  | .map _ entries => entry? entries key
  | .list .group items =>
    match key.chars? with
    | some name =>
      if name == "grouper".toList then items[0]?
      else if name == "list".toList then items[1]?
      else Option.none
    | Option.none => (place? items.length key).bind (items[·]?)
  | .list _ items => (place? items.length key).bind (items[·]?)
  | .text chars | .safe chars =>
    (place? chars.length key).bind fun i => chars[i]?.map fun c => .text [c]
  | .loop place previous next => fieldOf? (loopFields place previous next) key
  | .routine r => fieldOf? (routineFields r) key
  | _ => Option.none

/-- The attribute of a value, if there is one. -/
def attribute? (v : Value) (name : List Char) : Option Value :=
  match v with
  | .text _ | .safe _ => Option.none
  | v => v.item? (.text name)

end Value

end LiterateSite.Template
