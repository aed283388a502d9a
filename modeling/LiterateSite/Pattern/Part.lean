import LiterateSite.Pattern.Basic
import LiterateSite.Pattern.Room

/-!
# Parts of a written pattern

What a reader knows of a part of a pattern besides the pattern itself: how deep its written form is
nested and how much room it takes. Both are limited.

* `Part`: a pattern with these measures.
* `Part.inOrder`, `Part.choice`, `Part.times`, `Part.group`: larger parts from smaller ones.
* `Part.isAllowed`: the limits are kept.
-/

namespace LiterateSite

/-- What a part consumes. -/
inductive Consumption where
  | never
  | perhaps
  | always
  deriving DecidableEq, Repr, Inhabited

namespace Consumption

/-- Of two parts in order. -/
def both : Consumption → Consumption → Consumption
  | never, b => b
  | a, never => a
  | always, _ => always
  | _, always => always
  | perhaps, perhaps => perhaps

/-- Of either of two parts. -/
def either (a b : Consumption) : Consumption := if a = b then a else perhaps

end Consumption

/-- A pattern with the measures of its written form. -/
structure Part where
  pattern : Pattern
  consumption : Consumption
  room : Room
  /-- How many parts with parts of their own lie one inside the other. -/
  depth : Nat := 0
  deriving Repr, Inhabited

namespace Part

/-- The deepest nesting. -/
def depthLimit : Nat := 250

/-- The limits are kept. -/
def isAllowed (part : Part) : Bool := part.depth ≤ depthLimit && part.room.fits

/-- The empty text. -/
def empty : Part := { pattern := .empty, consumption := .never, room := .both Room.state }

/-- A place where flags change; it takes no room. -/
def flags : Part := { pattern := .empty, consumption := .never, room := .both 0 }

/-- An assertion. -/
def look (a : Assertion) : Part :=
  { pattern := .look a, consumption := .never, room := .both Room.state }

/-- One character of a set, written with so many brackets inside each other. -/
def one (s : CharSet) (depth : Nat) : Part :=
  { pattern := .one s, consumption := .always, room := .ofSet s, depth }

/-- A group; one that is remembered takes room at both ends, but not backwards. -/
def group (remembered : Bool) (part : Part) : Part :=
  { part with
    depth := part.depth + 1
    room := if remembered then part.room + ⟨2 * Room.state, 0⟩ else part.room }

/-- The deepest nesting of the parts. -/
def deepest (parts : List Part) : Nat := (parts.map (·.depth)).foldl max 0

/-- The room of all parts. -/
def roomOf (parts : List Part) : Room := (parts.map (·.room)).foldl (· + ·) (.both 0)

/-- The parts one after the other. -/
def inOrder : List Part → Part
  | [] => empty
  | [part] => part
  | several =>
    { pattern := .seqAll (several.map (·.pattern))
      consumption := (several.map (·.consumption)).foldl .both .never
      room := roomOf several
      depth := deepest several + 1 }

/-- The first of the parts that leads to a match. -/
def choice : List Part → Part
  | [] => empty
  | [part] => part
  | first :: rest =>
    { pattern := .altAll ((first :: rest).map (·.pattern))
      consumption := (rest.map (·.consumption)).foldl .either first.consumption
      room := roomOf (first :: rest)
        + .both (2 * Room.state + Room.choice * (rest.length + 1))
      depth := deepest (first :: rest) + 1 }

/-- The room of a part repeated. -/
def repeatedRoom (part : Part) (low : Nat) (high : Option Nat) : Room :=
  let loop := Room.both (Room.state + 2 * Room.choice)
  match high with
  | some 0 => .both Room.state
  | some m =>
    if low == m then .scale m part.room
    else if low == 0 && m == 1 then part.room + loop + .both Room.state
    else
      (if low == 0 then .both Room.state else .scale low part.room) + .both Room.state
        + .scale (m - low) (part.room + loop)
  | none =>
    if low == 0 then
      if part.consumption == .always then part.room + loop
      else part.room + loop + loop + .both Room.state
    else .scale low part.room + loop

/-- A part repeated. One that never consumes anything need not be repeated more than once. -/
def times (greedy : Bool) (part : Part) (low : Nat) (high : Option Nat) : Part :=
  let idle := part.consumption == .never
  let low := if idle then min low 1 else low
  let high := if idle then some (min (high.getD 1) 1) else high
  let consumption :=
    if high == some 0 then .never
    else if low == 0 then part.consumption.either .never
    else part.consumption
  { pattern := part.pattern.times greedy low high
    consumption
    room := repeatedRoom part low high
    depth := part.depth + 1 }

end Part

end LiterateSite
