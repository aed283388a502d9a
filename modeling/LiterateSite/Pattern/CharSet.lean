import LiterateSite.Text.Blank
import LiterateSite.Text.Runs
import LiterateSite.Text.Script

/-!
# Sets of characters

What one position of a pattern admits.

* `CharSet`: ranges, named classes and the set operations.
* `CharSet.contains`: membership.
* `CharSet.runs`: the members as runs of code points.
-/

namespace LiterateSite

open Text

/-- A set of characters. -/
inductive CharSet where
  | nothing
  | anything
  /-- All characters from `low` to `high`. -/
  | range (low high : Char)
  | blank
  | word
  | decimal
  | category (c : Category)
  | script (name : String)
  /-- The characters of a table of runs. -/
  | table (runs : List (Nat × Nat))
  | compl (s : CharSet)
  | union (s t : CharSet)
  | inter (s t : CharSet)
  | diff (s t : CharSet)
  | symmDiff (s t : CharSet)
  /-- The members of `s` and all that differ from one in case only. -/
  | foldCase (s : CharSet)
  deriving DecidableEq, Repr, Inhabited

namespace CharSet

/-- The set of one character. -/
def single (c : Char) : CharSet := .range c c

/-- The union of the sets. -/
def unionAll : List CharSet → CharSet
  | [] => .nothing
  | [s] => s
  | s :: rest => .union s (unionAll rest)

/-- The set of the characters of a string. -/
def oneOf (s : String) : CharSet := unionAll (s.toList.map single)

/-- Membership. -/
def contains : CharSet → Char → Bool
  | nothing, _ => false
  | anything, _ => true
  | range low high, c => low.val ≤ c.val && c.val ≤ high.val
  | blank, c => isBlank c
  | word, c => isWord c
  | decimal, c => isDecimal c
  | category k, c => Category.ofChar c == k
  | script name, c => isOfScript name c
  | table runs, c => inRuns runs c
  | compl s, c => !s.contains c
  | union s t, c => s.contains c || t.contains c
  | inter s t, c => s.contains c && t.contains c
  | diff s t, c => s.contains c && !t.contains c
  | symmDiff s t, c => s.contains c != t.contains c
  | foldCase s, c => s.contains c || (caseVariants c).any s.contains

/-! ## Members as runs -/

/-- The runs of the categories that satisfy `p`, from the table of their starts. -/
def categoryRuns (p : Category → Bool) : List (Nat × Category) → List (Nat × Nat)
  | (first, k) :: (next, k') :: rest =>
    if p k then (first, next - 1) :: categoryRuns p ((next, k') :: rest)
    else categoryRuns p ((next, k') :: rest)
  | [(first, k)] => if p k then [(first, 0x10FFFF)] else []
  | [] => []

/-- The runs of the categories that satisfy `p`. -/
def runsOfCategories (p : Category → Bool) : List (Nat × Nat) :=
  Runs.inter Runs.characters (Runs.merge (categoryRuns p Category.starts.toList))

/-- The runs of the blank characters. -/
def blankRuns : List (Nat × Nat) :=
  Runs.merge (((List.range 0x3001).filter fun n => isBlank (Char.ofNat n)).map fun n => (n, n))

/-- The runs of the word characters. -/
def wordRuns : List (Nat × Nat) :=
  Runs.union
    (runsOfCategories fun k =>
      k matches .lu | .ll | .lt | .lm | .lo | .nl | .mn | .mc | .me | .nd | .pc)
    [(0x200C, 0x200D), (0x24B6, 0x24E9), (0x1F130, 0x1F149), (0x1F150, 0x1F169),
      (0x1F170, 0x1F189)]

/-- The members as a normal list of runs. -/
def runs : CharSet → List (Nat × Nat)
  | nothing => []
  | anything => Runs.characters
  | range low high => Runs.inter Runs.characters [(low.toNat, high.toNat)]
  | blank => blankRuns
  | word => wordRuns
  | decimal => runsOfCategories (· == .nd)
  | category k => runsOfCategories (· == k)
  | script name => Runs.normal ((scripts.lookup name).getD [])
  | table t => Runs.inter Runs.characters (Runs.normal t)
  | compl s => Runs.compl s.runs
  | union s t => Runs.union s.runs t.runs
  | inter s t => Runs.inter s.runs t.runs
  | diff s t => Runs.inter s.runs (Runs.compl t.runs)
  | symmDiff s t =>
    Runs.union (Runs.inter s.runs (Runs.compl t.runs)) (Runs.inter t.runs (Runs.compl s.runs))
  | foldCase s => Runs.foldCase s.runs

end CharSet

end LiterateSite
