import LiterateSite.Style.Value

/-!
# Values of sides

* `impliedSides`: values of four sides without those that the others imply.
* `sidesUpTo?`, `corners?`: values of sides and of corners in their shortest form.
-/

namespace LiterateSite.Style

/-- Texts with commas between them. -/
def withCommas (texts : List (List Char)) : List Char := (texts.intersperse [',']).flatten

/-- Texts with blanks between them. -/
def withBlanks (texts : List (List Char)) : List Char := (texts.intersperse [' ']).flatten

/-- Values of four sides without those that the others imply. -/
def impliedSides (texts : List (List Char)) : List (List Char) :=
  match texts with
  | [a, b, c, d] =>
    if b != d then [a, b, c, d] else if a != c then [a, b, c] else if a != b then [a, b] else [a]
  | [a, b, c] => if a != c then [a, b, c] else if a != b then [a, b] else [a]
  | [a, b] => if a != b then [a, b] else [a]
  | texts => texts

/-- Up to `most` words; those that the others imply are left out. -/
def sidesUpTo? (most : Nat) (read : Piece → Option (List Char)) (ps : List Piece) : Option (List Char) :=
  if ps.length > most then none
  else (ps.mapM read).map fun texts => withBlanks (impliedSides texts)

/-- A word of a side: a length or a keyword. -/
def side? : Piece → Option (List Char)
  | .token (.ident name) => some (lower name)
  | p => length? p

/-- Corners: the values across, and those down if they differ. -/
def corners? (ps : List Piece) : Option (List Char) :=
  match (splitWhere (Piece.isMark '/') ps).mapM (sidesUpTo? 4 length?) with
  | some [across] => some across
  | some [across, down] => some (if across == down then across else across ++ '/' :: down)
  | _ => none

end LiterateSite.Style
