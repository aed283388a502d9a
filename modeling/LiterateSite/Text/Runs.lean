import LiterateSite.Text.Case

/-!
# Runs of code points

Sets of characters as lists of runs, a first and a last code point each. A list is normal if its
runs are in order with a gap between any two.

* `Runs.characters`: the code points that are characters.
* `Runs.normal`: the normal list with the same members.
* `Runs.union`, `Runs.inter`, `Runs.compl`: the set operations, on normal lists.
* `Runs.foldCase`: the members and all that differ from one in case only.
-/

namespace LiterateSite.Text.Runs

/-- All code points that are characters: all but the surrogates. -/
def characters : List (Nat × Nat) := [(0, 0xD7FF), (0xE000, 0x10FFFF)]

/-- Join runs that overlap or touch; the runs are in the order of their first members. -/
def merge : List (Nat × Nat) → List (Nat × Nat)
  | [] => []
  | run :: rest => go run rest
where
  /-- The run in hand, lengthened while the next one begins inside it or at its end. -/
  go (run : Nat × Nat) : List (Nat × Nat) → List (Nat × Nat)
    | [] => [run]
    | next :: rest =>
      if next.1 ≤ run.2 + 1 then go (run.1, max run.2 next.2) rest else run :: go next rest

/-- The normal list with the same members. -/
def normal (runs : List (Nat × Nat)) : List (Nat × Nat) :=
  merge ((runs.filter fun (first, last) => first ≤ last).mergeSort fun a b => a.1 ≤ b.1)

/-- Members of one of the lists. -/
def union (a b : List (Nat × Nat)) : List (Nat × Nat) := normal (a ++ b)

/-- The code points below `limit` that are in no run and not below `start`. -/
def gaps (limit : Nat) : Nat → List (Nat × Nat) → List (Nat × Nat)
  | start, [] => if start < limit then [(start, limit - 1)] else []
  | start, (first, last) :: rest =>
    if start < first then (start, first - 1) :: gaps limit (last + 1) rest
    else gaps limit (last + 1) rest

/-- Members of both lists; `fuel` is at least the number of their runs. -/
def meet : Nat → List (Nat × Nat) → List (Nat × Nat) → List (Nat × Nat)
  | fuel + 1, (first, last) :: a, (first', last') :: b =>
    let here :=
      if max first first' ≤ min last last' then [(max first first', min last last')] else []
    here ++ if last < last' then meet fuel a ((first', last') :: b)
      else meet fuel ((first, last) :: a) b
  | _, _, _ => []

/-- Members of both lists. -/
def inter (a b : List (Nat × Nat)) : List (Nat × Nat) := meet (a.length + b.length) a b

/-- The characters that are no members. -/
def compl (a : List (Nat × Nat)) : List (Nat × Nat) := inter characters (gaps 0x110000 0 a)

/-- The members of a run that leaves out all but every `step`th code point. -/
def spread (first last step : Nat) : List Nat :=
  (List.range ((last - first) / max step 1 + 1)).map fun i => first + i * step

/-- The code points of each case of a letter, for all letters that have cases. -/
def caseGroups : List (List Nat) :=
  foldGroups ++ pairRuns.toList.flatMap fun (first, last, step, delta) =>
    (spread first last step).map fun n => [n, Int.toNat (n + delta)]

/-- The members and all that differ from one in case only. -/
def foldCase (a : List (Nat × Nat)) : List (Nat × Nat) :=
  let holds := fun n => a.any fun (first, last) => first ≤ n && n ≤ last
  union a ((caseGroups.filter fun group => group.any holds).flatten.map fun n => (n, n))

/-- The code points that a mapping shifts. -/
def shiftedBy (runs : Array ShiftRun) : List (Nat × Nat) :=
  normal (runs.toList.flatMap fun (first, last, step, _) =>
    (spread first last step).map fun n => (n, n))

/-- The characters whose upper case is something else. -/
def changedByUpper : List (Nat × Nat) :=
  union (shiftedBy upperRuns) (upperSpecial.map fun (n, _) => (n, n))

/-- The characters whose lower case is something else. -/
def changedByLower : List (Nat × Nat) := union (shiftedBy lowerRuns) [(0x130, 0x130)]

end LiterateSite.Text.Runs
