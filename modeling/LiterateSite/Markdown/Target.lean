import LiterateSite.Markdown.Entity
import LiterateSite.Markdown.Label

/-!
# Targets of links

* `unescape`: a text without the backslashes that escape, and with its character references
  resolved.
* `Target`: the destination and title of a link.
* `pointedEnd?`, `bareEnd?`: the end of the destination at a place.
* `References`: the definitions that links and footnotes refer to.
-/

namespace LiterateSite.Markdown

open Text

/-- The text from a place on without backslashes before punctuation and without `\r`, and with its
references resolved. In a table, a bar that belongs to the text has one backslash before it, which
may be escaped. `fuel` is more than the length of the text. -/
def unescapeFrom (s : Source) (inTable : Bool) : Nat → Nat → List Char
  | 0, _ => []
  | fuel + 1, place =>
    match s.get? place with
    | none => []
    | some c =>
      if inTable && s.startsWith place ['\\', '\\', '|'] then
        '|' :: unescapeFrom s inTable fuel (place + 3)
      else if c == '\\' then
        match s.get? (place + 1) with
        | some p =>
          if isAsciiPunctuation p then p :: unescapeFrom s inTable fuel (place + 2)
          else c :: unescapeFrom s inTable fuel (place + 1)
        | none => [c]
      else if c == '&' then
        match Entity.at? s place with
        | some (chars, after) => chars ++ unescapeFrom s inTable fuel after
        | none => c :: unescapeFrom s inTable fuel (place + 1)
      else if c == '\r' then unescapeFrom s inTable fuel (place + 1)
      else c :: unescapeFrom s inTable fuel (place + 1)

/-- A text without backslashes before punctuation, and with its references resolved. -/
def unescape (inTable : Bool) (text : List Char) : List Char :=
  unescapeFrom (.ofList text) inTable (text.length + 1) 0

/-- The end of a destination between `<` and `>`: the place of the `>`. -/
def pointedEnd? (s : Source) : Nat → Nat → Option Nat
  | 0, _ => none
  | fuel + 1, place =>
    match s.get? place with
    | none | some '\n' | some '\r' | some '<' => none
    | some '>' => some place
    | some c =>
      if c == '\\' && (s.get? (place + 1)).any isAsciiPunctuation then pointedEnd? s fuel (place + 2)
      else pointedEnd? s fuel (place + 1)

/-- The end of a bare destination: no blanks or control characters, and parentheses in pairs,
nested to a limit. -/
def bareEnd? (s : Source) : Nat → Nat → Nat → Option Nat
  | 0, _, _ => none
  | fuel + 1, place, nest =>
    let stop := if nest == 0 then some place else none
    match s.get? place with
    | none => stop
    | some c =>
      if c.toNat ≤ 0x20 then stop
      else if c == '(' then if nest > 32 then none else bareEnd? s fuel (place + 1) (nest + 1)
      else if c == ')' then if nest == 0 then stop else bareEnd? s fuel (place + 1) (nest - 1)
      else if c == '\\' && (s.get? (place + 1)).any isAsciiPunctuation then
        bareEnd? s fuel (place + 2) nest
      else bareEnd? s fuel (place + 1) nest

/-- The destination at a place, as it is written, and the place after it. -/
def destination? (s : Source) (place : Nat) : Option (List Char × Nat) :=
  let fuel := s.stop - place + 1
  if s.has place '<' then
    (pointedEnd? s fuel (place + 1)).map fun stop => (s.slice (place + 1) stop, stop + 1)
  else (bareEnd? s fuel place 0).map fun stop => (s.slice place stop, stop)

/-- The character that closes a title which one opens. -/
def titleClose? (c : Char) : Option Char :=
  if c == '(' then some ')' else if c == '"' || c == '\'' then some c else none

/-- The destination and title of a link. -/
structure Target where
  destination : List Char
  title : List Char
  deriving DecidableEq, Repr, Inhabited

/-- The definitions that links and footnotes refer to, by label in the form of `labelKey`. -/
structure References where
  targets : List (List Char × Target) := []
  footnotes : List (List Char) := []
  deriving Repr, Inhabited

namespace References

def target? (refs : References) (label : List Char) : Option Target :=
  (refs.targets.find? fun (key, _) => key == labelKey label).map (·.2)

def hasFootnote (refs : References) (label : List Char) : Bool :=
  refs.footnotes.contains (labelKey label)

/-- Add a definition; the first one of a label counts. -/
def define (refs : References) (label : List Char) (target : Target) : References :=
  let key := labelKey label
  if refs.targets.any fun (known, _) => known == key then refs
  else { refs with targets := refs.targets ++ [(key, target)] }

end References

end LiterateSite.Markdown
