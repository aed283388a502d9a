import LiterateSite.Source.Segment

/-!
# Example sources

The literate content of one example: a description for the page, and the segments.

* `Example.read`: reads the text of a source whose first lines may be set aside as a header.
-/

namespace LiterateSite.Source

open Text

/-- The literate content of one example. -/
structure Example where
  /-- The first documentation line. -/
  description : List Char
  segments : List Segment
  deriving DecidableEq, Repr, Inhabited

/-- The text of the first documentation line, or empty. -/
def firstDocumentation (lines : List (List Char)) : List Char :=
  match lines.find? fun line => classify line == .documentation with
  | some line => stripDocumentation line
  | none => []

/-- Read a source whose first `headerLines` lines stay out of the segments. The description is
looked for in the header, or in the whole source if there is no header. -/
def Example.read (text : List Char) (headerLines : Nat) : Example :=
  let all := lines text
  let body := all.drop headerLines
  { description := firstDocumentation (if headerLines = 0 then body else all.take headerLines)
    segments := Source.segments body }

end LiterateSite.Source
