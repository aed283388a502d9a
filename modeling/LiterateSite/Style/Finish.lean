import LiterateSite.Style.Compact

/-!
# Finishing style sheets

* `finish`: a sheet as it is written to disk, and whether it was kept because it could not be read.
-/

namespace LiterateSite.Style

/-- A sheet as it is written: on one line if `minify` is set and the sheet can be read. The flag
tells that it should have been but could not. -/
def finish (css : List Char) (minify : Bool) : List Char × Bool :=
  if minify then
    match minify? css with
    | some compact => (compact, false)
    | none => (css, true)
  else (css, false)

end LiterateSite.Style
