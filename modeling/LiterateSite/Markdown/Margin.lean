import LiterateSite.Markdown.Source

/-!
# Margins

Where a line begins, as seen by the blocks that hold it.

* `Margin`: a place in a line, in columns. A tab goes to the next multiple of four, and only a part
  of its columns may have been taken.
* `Container`: the blocks that hold blocks, and how a line goes on with one (`Container.goesOn?`).
* `Scope`: a text with the containers that are open in it.
-/

namespace LiterateSite.Markdown

/-- A place within a line: where its columns are counted from, and the columns that are left of a
tab of which a part has been taken. -/
structure Margin where
  place : Nat
  origin : Nat
  pending : Nat := 0
  deriving DecidableEq, Repr, Inhabited

namespace Margin

/-- The margin of a line that begins at a place. -/
def start (place : Nat) : Margin := { place, origin := place }

/-- Take at most `n` columns of blank space from the text: the number taken, and the place after. -/
def takeFrom (s : Source) (place origin taken : Nat) (n : Nat) : Nat × Margin :=
  match n with
  | 0 => (taken, { place, origin })
  | n + 1 =>
    match s.get? place with
    | some ' ' => takeFrom s (place + 1) origin (taken + 1) n
    | some '\t' =>
      let width := 4 - (place - origin) % 4
      if n + 1 ≤ width then (taken + (n + 1), ⟨place + 1, place + 1, width - (n + 1)⟩)
      else takeFrom s (place + 1) (place + 1) (taken + width) (n + 1 - width)
    | _ => (taken, { place, origin })
termination_by n
decreasing_by all_goals omega

/-- Take at most `n` columns of blank space. -/
def take (m : Margin) (s : Source) (n : Nat) : Nat × Margin :=
  let early := min m.pending n
  if early == n then (n, { m with pending := m.pending - early })
  else takeFrom s m.place m.origin early (n - early)

/-- Take as many of `n` columns as there are, if that is all of them or the line ends there. -/
def indented? (m : Margin) (s : Source) (n : Nat) : Option Margin :=
  let (taken, after) := m.take s n
  if taken == n || s.atLineEnd after.place then some after else none

/-- Past spaces and tabs. -/
def skip (m : Margin) (s : Source) : Margin :=
  { m with place := s.skipWhile (fun c => c == ' ' || c == '\t') m.place, pending := 0 }

/-- Past `n` characters that are no tabs. -/
def drop (m : Margin) (n : Nat) : Margin := { m with place := m.place + n }

/-- Past the mark of a quote and one column of space. -/
def quoteMark? (m : Margin) (s : Source) : Option Margin :=
  if s.has m.place '>' then some ((m.drop 1).take s 1).2 else none

end Margin

/-- The blocks that hold blocks. -/
inductive Container where
  | quote
  /-- A list of items with one kind of mark, and its first number. -/
  | list (kind : Char) (number : Nat) (tight : Bool)
  /-- An item whose content is indented so far. -/
  | item (indent : Nat)
  | footnote (label : List Char)
  deriving DecidableEq, Repr, Inhabited

/-- The place after the mark of a container that a line goes on with. -/
def Container.goesOn? (s : Source) (m : Margin) : Container → Option Margin
  | .list .. => some m
  | .quote => (m.take s 3).2.quoteMark? s
  | .item indent => m.indented? s indent
  | .footnote _ => m.indented? s 4

/-- A text with the containers that are open, outermost first. -/
structure Scope where
  source : Source
  containers : List Container
  /-- The text is in a cell of a table. -/
  inTable : Bool := false
  deriving Repr, Inhabited

namespace Scope

/-- How many containers a line goes on with, and the place after their marks. -/
def matchFrom (s : Source) : List Container → Margin → Nat → Nat × Margin
  | [], m, n => (n, m)
  | c :: rest, m, n =>
    match c.goesOn? s m with
    | some after => matchFrom s rest after (n + 1)
    | none => (n, m)

/-- The number of open containers that the line from a place on goes on with, and the place after
their marks. -/
def continued (scope : Scope) (place : Nat) : Nat × Margin :=
  matchFrom scope.source scope.containers (.start place) 0

/-- Whether a line goes on with all open containers, and the place after the marks of those that
it goes on with. -/
def line (scope : Scope) (place : Nat) : Bool × Margin :=
  let (n, m) := scope.continued place
  (n == scope.containers.length, m)

/-- The place after the marks of all open containers, if the line goes on with them all. -/
def within? (scope : Scope) (place : Nat) : Option Margin :=
  let (all, m) := scope.line place
  if all then some m else none

/-- The place after the marks of containers at the start of a line. -/
def afterMarks (scope : Scope) (place : Nat) : Nat := (scope.continued place).2.place

end Scope

end LiterateSite.Markdown
