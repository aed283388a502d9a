import LiterateSite.Files.Access
import LiterateSite.Shell.Wildcard
import LiterateSite.Text.Line

/-!
# Fields

What words become: the arguments of a command.

* `Piece`: a part of a word after its expansion.
* `fields`: the fields that pieces make; separators split what has been expanded outside of quotes.
* `Field.expanded`: the paths that a field with wildcards covers.
-/

namespace LiterateSite.Shell

open Files

/-- A part of a word after its expansion. -/
inductive Piece where
  /-- Quoted text: it stays together, and none of its characters is special. -/
  | whole (chars : List Char)
  /-- Text of the script: it stays together. -/
  | plain (chars : List Char)
  /-- Text from elsewhere, which separators split. -/
  | loose (chars : List Char)
  /-- A field ends here. -/
  | gap
  deriving DecidableEq, Repr, Inhabited

/-- Characters, each with whether it may be a wildcard. -/
abbrev Field := List (Char × Bool)

namespace Piece

/-- The text of pieces that are no fields. -/
def text (pieces : List Piece) : List Char :=
  pieces.flatMap fun
    | whole chars | plain chars | loose chars => chars
    | gap => [' ']

/-- The characters of pieces that are no fields. -/
def characters (pieces : List Piece) : Field :=
  pieces.flatMap fun
    | whole chars => chars.map (·, false)
    | plain chars | loose chars => chars.map (·, true)
    | gap => [(' ', false)]

/-- The same piece as the value of an expansion. -/
def expandedTo (quoted : Bool) : Piece → Piece
  | plain chars => if quoted then .whole chars else .loose chars
  | piece => piece

end Piece

namespace Field

def text (f : Field) : List Char := f.map (·.1)

/-- The pattern that a field writes: what is no wildcard stands after a backslash if need be. -/
def pattern (f : Field) : List Char :=
  f.flatMap fun (c, active) => if !active && Wildcard.isSpecial c then ['\\', c] else [c]

/-- The field has a wildcard. -/
def hasWildcard (f : Field) : Bool := f.any fun (c, active) => active && Wildcard.isWild c

/-- The parts between slashes. -/
def parts : Field → List Field
  | [] => [[]]
  | (c, active) :: rest =>
    if c == '/' then [] :: parts rest
    else
      match parts rest with
      | [] => [[(c, active)]]
      | part :: more => ((c, active) :: part) :: more

/-- The names in a directory that a part covers. A dot at the start has to be written. -/
def names (t : Tree) (directory : List Char) (part : Field) : List (List Char) :=
  let p : Path := ⟨if directory.isEmpty then ['.'] else directory⟩
  match t.isDir p, t.resolve p with
  | true, .ok l =>
    let dots := if part.text.head? == some '.' then [['.'], ['.', '.']] else []
    ((t.names l).map Name.toText ++ dots).filter fun n =>
      (n.head? != some '.' || part.text.head? == some '.') && Wildcard.covers part.pattern n
  | _, _ => []

/-- The paths below a directory that parts cover. -/
def pathsFrom (t : Tree) : List Char → List Field → List (List Char)
  | _, [] => []
  | before, part :: rest =>
    let here :=
      if part.hasWildcard then names t before part
      else if part.isEmpty || t.exists ⟨before ++ part.text⟩ then [part.text]
      else []
    if rest.isEmpty then here.map (before ++ ·)
    else (here.filter fun n => n.isEmpty || t.isDir ⟨before ++ n⟩).flatMap fun n =>
      pathsFrom t (before ++ n ++ ['/']) rest

/-- What a field stands for: the paths that it covers in order, or its own text. -/
def expanded (t : Tree) (f : Field) : List (List Char) :=
  if f.hasWildcard then
    let found := Text.inOrder (pathsFrom t [] f.parts)
    if found.isEmpty then [f.text] else found
  else [f.text]

end Field

/-- A character of a word, or a mark between characters. -/
inductive Mark where
  | char (c : Char) (active : Bool)
  /-- A character that may be a separator. -/
  | loose (c : Char)
  /-- There is a field here, even if it is empty. -/
  | present
  | gap
  deriving DecidableEq, Repr, Inhabited

/-- The characters and marks of a piece. -/
def Piece.marks : Piece → List Mark
  | whole chars => .present :: chars.map (.char · false)
  | plain chars => chars.map (.char · true)
  | loose chars => chars.map .loose
  | gap => [.gap]

/-- A separator of which several in a row count as one. -/
def isSoftSeparator (c : Char) : Bool := c == ' ' || c == '\t' || c == '\n'

/-- The fields of characters and marks. `begun?` holds the field that has begun, last character
first; `soft` tells that a field has just been ended by a separator that others may follow. -/
def fieldsFrom (separators : List Char) : Option Field → Bool → List Mark → List Field
  | begun?, _, [] => begun?.toList.map List.reverse
  | begun?, soft, m :: rest =>
    let ended := begun?.toList.map List.reverse
    let grown := fun (c : Char) (active : Bool) =>
      fieldsFrom separators (some ((c, active) :: begun?.getD [])) false rest
    match m with
    | .char c active => grown c active
    | .present => fieldsFrom separators (some (begun?.getD [])) false rest
    | .gap => ended ++ fieldsFrom separators none false rest
    | .loose c =>
      if !separators.contains c then grown c true
      else if isSoftSeparator c then
        ended ++ fieldsFrom separators none (soft || begun?.isSome) rest
      else if begun?.isNone && !soft then [] :: fieldsFrom separators none false rest
      else ended ++ fieldsFrom separators none false rest

/-- The fields that pieces make. -/
def fields (separators : List Char) (pieces : List Piece) : List Field :=
  fieldsFrom separators none false (pieces.flatMap Piece.marks)

end LiterateSite.Shell
