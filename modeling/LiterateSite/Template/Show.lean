import LiterateSite.Number.Decimal
import LiterateSite.Template.Value
import LiterateSite.Text.Quoted

/-!
# Values as text

* `Value.inner`: a value as it is shown within another.
* `Value.show`: the text of a value.
* `Value.pretty`: a value on several lines.
* `escape`, `Value.escaped`: text in markup, and the text of a value in markup.
-/

namespace LiterateSite.Template

open Number Text

namespace Value

/-- Texts with commas between them. -/
def separated (texts : List (List Char)) : List Char := (texts.intersperse [',', ' ']).flatten

/-- How many items a loop has gone through, of how many. -/
def showLoop (place : LoopPlace) : List Char :=
  "<loop ".toList ++ digitsOf place.index ++ '/' :: digitsOf place.length ++ ['>']

mutual

/-- A value as it is shown within another. -/
def inner : Value → List Char
  | .undefined => "undefined".toList
  | .none => "None".toList
  | .bool b => (if b then "True" else "False").toList
  | .int n => (toString n).toList
  | .float x => compactText x
  | .text chars | .safe chars => quote chars
  | .list _ items => '[' :: separated (innerItems items) ++ [']']
  | .map (.module chars) _ => chars
  | .map _ entries => '\x7b' :: separated (innerEntries entries) ++ ['\x7d']
  | .loop place _ _ => showLoop place
  | .routine r => "<macro ".toList ++ r.name ++ ['>']
  | .function name => "<function ".toList ++ name ++ ['>']
  | .space _ => ['\x7b', '\x7d']

def innerItems : List Value → List (List Char)
  | [] => []
  | v :: rest => inner v :: innerItems rest

def innerEntries : List (Value × Value) → List (List Char)
  | [] => []
  | (key, v) :: rest => (inner key ++ ':' :: ' ' :: inner v) :: innerEntries rest

end

/-- The text of a value. -/
def «show» : Value → List Char
  | .undefined => []
  | .float x => plainText x
  | .text chars | .safe chars => chars
  | v => v.inner

/-- A text with blanks at the start of each line. -/
def shifted (chars : List Char) : List Char :=
  chars.flatMap fun c => if c == '\n' then '\n' :: List.replicate 4 ' ' else [c]

/-- Texts on lines of their own between two brackets. -/
def spread (opening closing : Char) (texts : List (List Char)) : List Char :=
  if texts.isEmpty then [opening, closing]
  else opening :: texts.flatMap (fun chars => shifted ('\n' :: chars) ++ [',']) ++ ['\n', closing]

mutual

/-- A value with every item on a line of its own. -/
def pretty : Value → List Char
  | .list _ items => spread '[' ']' (prettyItems items)
  | .map .plain entries | .map .named entries => spread '\x7b' '\x7d' (prettyEntries entries)
  | v => v.inner

def prettyItems : List Value → List (List Char)
  | [] => []
  | v :: rest => pretty v :: prettyItems rest

def prettyEntries : List (Value × Value) → List (List Char)
  | [] => []
  | (key, v) :: rest => (pretty key ++ ':' :: ' ' :: pretty v) :: prettyEntries rest

end

end Value

/-- A character of a text in markup. -/
def escapeChar (c : Char) : List Char :=
  match c with
  | '<' => "&lt;".toList
  | '>' => "&gt;".toList
  | '&' => "&amp;".toList
  | '"' => "&quot;".toList
  | '\'' => "&#x27;".toList
  | '/' => "&#x2f;".toList
  | _ => [c]

/-- A text in markup. -/
def escape (chars : List Char) : List Char := chars.flatMap escapeChar

/-- The text of a value in markup. -/
def Value.escaped : Value → List Char
  | .safe chars => chars
  | v => escape v.show

/-- The text of a value where values are written as markup, or where they are not. -/
def Value.written (escaping : Bool) (v : Value) : List Char :=
  if escaping then v.escaped else v.show

end LiterateSite.Template
