import LiterateSite.Text.Case
import LiterateSite.Text.Category
import LiterateSite.Markdown.Margin

/-!
# Labels

The labels in brackets that links and footnotes are defined and found by.

* `labelBody?`: a label up to its closing bracket, with blanks collapsed.
* `Label`, `Label.at?`: the label in brackets at a place.
* `labelKey`: a label as it is compared.
-/

namespace LiterateSite.Markdown

open Text

/-- A label as it is compared: without regard to case. -/
def labelKey (label : List Char) : List Char := toLower ((toLower label).flatMap upperChar)

/-- Blanks in a label from a place on, with the line ends and columns among them counted so far:
the columns and the place after. `turn` answers where a label goes on after a line end; there may
be one line end. -/
def labelBlanks? (s : Source) (turn : Nat → Option Nat) :
    Nat → Nat → Nat → Nat → Option (Nat × Nat)
  | 0, _, _, _ => none
  | fuel + 1, place, ends, columns =>
    match s.get? place with
    | none => some (columns, place)
    | some c =>
      if !isSpace c then some (columns, place)
      else
        match s.lineEnd? place with
        | none => labelBlanks? s turn fuel (place + 1) ends (columns + if c == ' ' then 1 else 2)
        | some after =>
          if ends > 0 then none
          else
            match turn after with
            | none => none
            | some next => labelBlanks? s turn fuel next (ends + 1) (columns + 2)

/-- A label up to its closing bracket, read so far into `acc`, last first, and the place after the
bracket. A label holds more than blanks, no bracket that is not escaped, no blank line, and fewer
than a thousand characters that count: escaped and blank ones and those beyond ASCII. In a table, a
bar is written with a backslash before it. -/
def labelFrom? (s : Source) (inTable : Bool) (turn : Nat → Option Nat) :
    Nat → Nat → List Char → Bool → Nat → Option (List Char × Nat)
  | 0, _, _, _, _ => none
  | fuel + 1, place, acc, onlyBlank, counted =>
    if counted ≥ 1000 then none
    else
      match s.get? place with
      | none => none
      | some '[' => none
      | some ']' => if onlyBlank then none else some (acc.reverse, place + 1)
      | some c =>
        if inTable && c == '|' && acc.head? == some '\\' then
          labelFrom? s inTable turn fuel (place + 1) ('|' :: acc.tail) false counted
        else if inTable && c == '\\' && s.has (place + 1) '|' then
          labelFrom? s inTable turn fuel (place + 2) ('|' :: acc) false (counted + 1)
        else if c == '\\' && (s.get? (place + 1)).any isAsciiPunctuation then
          labelFrom? s inTable turn fuel (place + 2) (s.slice place (place + 2) |>.reverseAux acc)
            false (counted + 2)
        else if isSpace c then
          match labelBlanks? s turn (s.stop + 1) place 0 0 with
          | none => none
          | some (columns, after) =>
            labelFrom? s inTable turn fuel after (' ' :: acc) onlyBlank
              (counted + if columns > 1 then after - place else 1)
        else
          labelFrom? s inTable turn fuel (place + 1) (c :: acc) false
            (counted + if c.toNat ≥ 128 then c.utf8Size else 0)

/-- A label from the place after its opening bracket: the label, and the place after its closing
bracket. -/
def labelBody? (s : Source) (inTable : Bool) (turn : Nat → Option Nat) (place : Nat) :
    Option (List Char × Nat) :=
  labelFrom? s inTable turn (s.stop - place + 1) place [] true 0

/-- The label of a footnote, which stands in one line, after its bracket and caret. -/
def footnoteLabel? (s : Source) (inTable : Bool) (place : Nat) : Option (List Char × Nat) :=
  labelBody? s inTable (fun _ => none) place

/-- A label in brackets. -/
inductive Label where
  | link (label : List Char)
  | footnote (label : List Char)
  deriving DecidableEq, Repr, Inhabited

/-- The label in brackets at a place, and the place after it. -/
def Label.at? (scope : Scope) (place : Nat) : Option (Label × Nat) :=
  let s := scope.source
  let plain := fun (_ : Unit) =>
    (labelBody? s scope.inTable (fun after => some (scope.afterMarks after)) (place + 1)).map
      fun (label, after) => (Label.link label, after)
  if !s.has place '[' then none
  else if s.has (place + 1) '^' && !s.has (place + 2) ']' then
    match footnoteLabel? s scope.inTable (place + 2) with
    | some (label, after) => some (.footnote label, after)
    | none => plain ()
  else plain ()

end LiterateSite.Markdown
