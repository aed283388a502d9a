import LiterateSite.Style.Property
import LiterateSite.Style.Sheet

/-!
# Compact style sheets

The shortest text of a style sheet with the same meaning, rule by rule.

* `compactRules`: rules on one line.
* `minify?`: a sheet on one line, if it can be read.
-/

namespace LiterateSite.Style

/-- A property as it is written: one that is known has small letters. -/
def propertyText (property : List Char) : List Char :=
  if (reader? (lowered property)).isSome then lower property else nameText property

/-- Declarations in their shortest form; the important ones stand last. `value` writes a value. -/
def compactWith (value : List Char → List Piece → List Char) (ds : List Declaration) : List Char :=
  let (last, first) := ds.partition Declaration.important
  let one := fun (d : Declaration) =>
    propertyText d.property ++ ':' :: value d.property d.value
      ++ (if d.important then "!important".toList else [])
  (((first ++ last).map one).intersperse [';']).flatten

/-- Declarations of a rule for what selectors select. -/
def compactDeclarations (ds : List Declaration) : List Char := compactWith valueText ds

/-- The text with a blank before it, unless it is empty. -/
def afterBlank (text : List Char) : List Char := if text.isEmpty then [] else ' ' :: text

mutual

/-- A rule on one line. A condition that always holds is left out. -/
def compactRule : Rule → List Char
  | .select selectors declarations rules =>
    let joint := if declarations.isEmpty || rules.isEmpty then [] else [';']
    selectors ++ '\x7b' :: compactDeclarations declarations ++ joint ++ compactRules rules ++ ['\x7d']
  | .loose declarations => compactDeclarations declarations
  | .group name condition rules =>
    if name == "media".toList && isEverywhere condition then compactRules rules
    else '@' :: name ++ afterBlank condition ++ '\x7b' :: compactRules rules ++ ['\x7d']
  | .block name subject declarations =>
    let value := if name == "font-face".toList then faceText else valueText
    '@' :: name ++ afterBlank subject ++ '\x7b' :: compactWith value declarations ++ ['\x7d']
  | .frames name animation steps =>
    '@' :: name ++ ' ' :: animation ++ '\x7b' :: (steps.flatMap fun (moments, declarations) =>
      moments ++ '\x7b' :: compactDeclarations declarations ++ ['\x7d']) ++ ['\x7d']
  | .statement name subject => '@' :: name ++ afterBlank subject ++ [';']
  | .unknown name subject body =>
    '@' :: nameText name ++ afterBlank (plainText subject) ++
      match body with
      | some inside => '\x7b' :: plainText inside ++ ['\x7d']
      | none => [';']

/-- Rules on one line. -/
def compactRules : List Rule → List Char
  | [] => []
  | .loose declarations :: r :: rest =>
    compactDeclarations declarations ++ ';' :: compactRules (r :: rest)
  | r :: rest => compactRule r ++ compactRules rest

end

/-- A style sheet on one line; none if it cannot be read. -/
def minify? (text : List Char) : Option (List Char) := (Sheet.read? text).map compactRules

end LiterateSite.Style
