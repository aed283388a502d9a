import LiterateSite.Text.Blank
import LiterateSite.Text.Case
import LiterateSite.Text.Category

/-!
# Changes of texts

What the filters for texts do.

* `titleCase`, `capitalized`: letters in upper and lower case.
* `replaceAll`, `splitOn`, `splitBlank`, `splitBlankTimes`: parts of a text.
* `indented`: blanks before lines.
-/

namespace LiterateSite.Template

open Text

/-- Each word with its first letter in upper and the others in lower case. -/
def titleCase : Bool → List Char → List Char
  | _, [] => []
  | start, c :: rest =>
    if isBlank c || isAsciiPunctuation c then c :: titleCase true rest
    else if start then upperChar c ++ titleCase false rest
    else lowerChar c ++ titleCase false rest

/-- The first letter in upper and the others in lower case. -/
def capitalized (chars : List Char) : List Char :=
  match chars with
  | [] => []
  | c :: rest => upperChar c ++ toLower rest

/-- Replace every occurrence of a text; `fuel` is more than the length. The empty text stands before
every character and at the end. -/
def replaceAll (old new : List Char) : Nat → List Char → List Char
  | 0, text => text
  | _ + 1, [] => if old.isEmpty then new else []
  | fuel + 1, c :: rest =>
    if old.isEmpty then new ++ c :: replaceAll old new fuel rest
    else if old.isPrefixOf (c :: rest) then
      new ++ replaceAll old new fuel ((c :: rest).drop old.length)
    else c :: replaceAll old new fuel rest

/-- The parts of a text between separators that are not empty; `fuel` is more than the length, and
`limit` is how many separators count, if not all do. -/
def splitFrom (separator : List Char) (limit : Option Nat) :
    Nat → List Char → List Char → List (List Char)
  | 0, _, acc => [acc.reverse]
  | _ + 1, [], acc => [acc.reverse]
  | fuel + 1, c :: rest, acc =>
    if limit == some 0 then [acc.reverse ++ c :: rest]
    else if separator.isPrefixOf (c :: rest) then
      acc.reverse ::
        splitFrom separator (limit.map (· - 1)) fuel ((c :: rest).drop separator.length) []
    else splitFrom separator limit fuel rest (c :: acc)

/-- The characters of a text, with the empty text before and after them. -/
def splitLetters (limit : Option Nat) (text : List Char) : List (List Char) :=
  let all := [] :: text.map (fun c => [c]) ++ [[]]
  match limit with
  | some n => if n + 1 < all.length then all.take n ++ [(all.drop n).flatten] else all
  | none => all

/-- The parts of a text between separators. -/
def splitOn (separator : List Char) (limit : Option Nat) (text : List Char) : List (List Char) :=
  if separator.isEmpty then splitLetters limit text
  else splitFrom separator limit (text.length + 1) text []

/-- The words of a text. -/
def splitBlank (text : List Char) : List (List Char) :=
  (text.splitBy fun a b => isBlank a == isBlank b).filter fun part => !part.all isBlank

/-- The parts of a text between so many blanks. -/
def splitBlankTimes : Nat → List Char → List Char → List (List Char)
  | _, [], acc => [acc.reverse]
  | 0, text, acc => [acc.reverse ++ text]
  | n + 1, c :: rest, acc =>
    if isBlank c then acc.reverse :: splitBlankTimes n rest []
    else splitBlankTimes (n + 1) rest (c :: acc)

/-- A text without the line end that closes it. -/
def withoutLineEnd (text : List Char) : List Char :=
  let text := if text.getLast? == some '\n' then text.dropLast else text
  if text.getLast? == some '\r' then text.dropLast else text

/-- Lines with blanks before them, the first one and empty ones only on demand. -/
def indented (width : Nat) (first blank : Bool) (text : List Char) : List Char :=
  let pad := List.replicate width ' '
  let padded := (splitOn ['\n'] none (withoutLineEnd text)).mapIdx fun i line =>
    if i == 0 && !first then line
    else if line.isEmpty then if blank then pad else []
    else pad ++ line
  withoutLineEnd (padded.flatMap (· ++ ['\n']))

end LiterateSite.Template
