/-!
# Wildcards

* `Glyph`: what a pattern is made of.
* `covers`: a pattern covers a text.
* `cut`: a text without the part at one of its ends that a pattern covers.
-/

namespace LiterateSite.Shell.Wildcard

/-- What a pattern is made of. -/
inductive Glyph where
  /-- Any text. -/
  | anything
  /-- Any character. -/
  | something
  /-- A character of a set, or outside of it. -/
  | oneOf (inside : Bool) (set : List Char)
  | exactly (c : Char)
  deriving DecidableEq, Repr, Inhabited

/-- A character that stands for others. -/
def isWild (c : Char) : Bool := c == '*' || c == '?' || c == '['

/-- A character with a meaning in patterns. -/
def isSpecial (c : Char) : Bool := isWild c || c == ']' || c == '\\' || c == '-' || c == '!'

/-- A character is in the set between brackets; a hyphen between two characters makes a range. -/
def inSet (c : Char) : List Char → Bool
  | a :: '-' :: b :: rest => (a ≤ c && c ≤ b) || inSet c rest
  | a :: rest => a == c || inSet c rest
  | [] => false

/-- The set after an opening bracket, and the rest; none if no bracket closes it. -/
def bracketed? (text : List Char) : Option (Glyph × List Char) :=
  let outside := text.head? == some '!' || text.head? == some '^'
  let body := if outside then text.drop 1 else text
  let set := body.takeWhile (· != ']')
  if set.length == body.length || set.isEmpty then none
  else some (.oneOf (!outside) set, body.drop (set.length + 1))

/-- The pattern that a text writes; `fuel` is at least the length. -/
def glyphs : Nat → List Char → List Glyph
  | 0, _ => []
  | _ + 1, [] => []
  | fuel + 1, '*' :: rest => .anything :: glyphs fuel rest
  | fuel + 1, '?' :: rest => .something :: glyphs fuel rest
  | fuel + 1, '\\' :: c :: rest => .exactly c :: glyphs fuel rest
  | fuel + 1, '[' :: rest =>
    match bracketed? rest with
    | some (g, rest) => g :: glyphs fuel rest
    | none => .exactly '[' :: glyphs fuel rest
  | fuel + 1, c :: rest => .exactly c :: glyphs fuel rest

/-- A glyph other than `anything` stands for a character. -/
def Glyph.takes (c : Char) : Glyph → Bool
  | .anything => false
  | .something => true
  | .oneOf inside set => inSet c set == inside
  | .exactly d => c == d

/-- The pattern covers the whole text. -/
def coversFrom : List Glyph → List Char → Bool
  | [], text => text.isEmpty
  | .anything :: p, text => (List.range (text.length + 1)).any fun n => coversFrom p (text.drop n)
  | g :: p, c :: rest => g.takes c && coversFrom p rest
  | _ :: _, [] => false

/-- A written pattern covers the whole text. -/
def covers (pattern text : List Char) : Bool := coversFrom (glyphs pattern.length pattern) text

/-- A text without the part at its start, or at its end, that the pattern covers: the longest or
the shortest such part. -/
def cut (atEnd longest : Bool) (pattern text : List Char) : List Char :=
  let sizes := List.range (text.length + 1)
  let sizes := if longest then sizes.reverse else sizes
  let found := sizes.find? fun n =>
    covers pattern (if atEnd then text.drop (text.length - n) else text.take n)
  match found with
  | none => text
  | some n => if atEnd then text.take (text.length - n) else text.drop n

end LiterateSite.Shell.Wildcard
