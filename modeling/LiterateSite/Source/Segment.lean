import LiterateSite.Source.Line
import LiterateSite.Text.Line

/-!
# Segments

A source is read as segments: one line of documentation with the code below it. A blank line
closes the segment in progress.

* `Segment`: documentation and code.
* `segments`: the segments of a list of lines.
-/

namespace LiterateSite.Source

open Text

/-- One unit of an annotated source. -/
structure Segment where
  /-- Text of the last documentation line, or empty. -/
  documentation : List Char := []
  /-- Code lines without trailing blanks, with `\n` between them. -/
  code : List Char := []
  deriving DecidableEq, Repr, Inhabited

namespace Segment

/-- The segment holds neither documentation nor code. -/
def isEmpty (s : Segment) : Bool := s.documentation.isEmpty && s.code.isEmpty

/-- Replace the documentation by the text of a documentation line. -/
def document (s : Segment) (line : List Char) : Segment :=
  { s with documentation := stripDocumentation line }

/-- Append a code line. -/
def addCode (s : Segment) (line : List Char) : Segment :=
  { s with
    code := if s.code.isEmpty then trimEnd line else s.code ++ '\n' :: trimEnd line }

end Segment

/-- Segments of the lines, the first of which continues the segment `current`. The segment that
is open at the end is kept if it is not empty. -/
def segmentsFrom (current : Segment) : List (List Char) → List Segment
  | [] => if current.isEmpty then [] else [current]
  | line :: rest =>
    match classify line with
    | .blank => current :: segmentsFrom {} rest
    | .documentation => segmentsFrom (current.document line) rest
    | .code => segmentsFrom (current.addCode line) rest

/-- The segments of a list of lines. -/
def segments (lines : List (List Char)) : List Segment := segmentsFrom {} lines

end LiterateSite.Source
