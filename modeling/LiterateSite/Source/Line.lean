import LiterateSite.Text.Blank

/-!
# Source lines

Each line of an annotated source is blank, documentation or code.

* `LineKind`, `classify`: the kind of a line.
* `stripDocumentation`: the text of a documentation line without its marker.
-/

namespace LiterateSite.Source

open Text

/-- The kind of one source line. -/
inductive LineKind where
  | blank
  | documentation
  | code
  deriving DecidableEq, Repr, Inhabited

/-- The text after a leading comment marker, `//` or `#`. -/
def afterMarker? : List Char → Option (List Char)
  | '/' :: '/' :: rest => some rest
  | '#' :: rest => some rest
  | _ => none

/-- The text is empty or begins with a blank character. -/
def isDetached : List Char → Bool
  | [] => true
  | c :: _ => isBlank c

/-- A line of blank characters is blank; one that begins, after blank characters, with a marker
that ends the line or has a blank after it is documentation; any other is code. -/
def classify (line : List Char) : LineKind :=
  if isBlankText line then .blank
  else
    match afterMarker? (trimStart line) with
    | some rest => if isDetached rest then .documentation else .code
    | none => .code

/-- Characters that surround the text of a documentation line. -/
def isSurround (c : Char) : Bool := c == '/' || isBlank c

/-- The text of a documentation line: without the marker, and without blank characters and
slashes at both ends. -/
def stripDocumentation (line : List Char) : List Char :=
  let trimmed := trim line
  trimBoth isSurround ((afterMarker? trimmed).getD trimmed)

end LiterateSite.Source
