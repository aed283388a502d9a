import LiterateSite.Text.Case
import LiterateSite.Text.Property

/-!
# Quoted text

* `quote`: a text in double quotes, in which characters that cannot be seen are escaped.
* `quoteList`: a list of quoted texts.
-/

namespace LiterateSite.Text

/-- The digits of a number in base sixteen, in lower case. -/
def hexDigits (n : Nat) : List Char := Nat.toDigits 16 n

/-- A character that cannot be seen on its own: one that is not printed, or extends the one before
it. -/
def isHidden (c : Char) : Bool :=
  c != ' ' && match Category.ofChar c with
  | .cc | .cf | .cs | .co | .cn | .zl | .zp | .zs | .mn | .me => true
  | _ => inRuns Property.otherGraphemeExtend c

/-- A character between quotes. -/
def quoteChar (c : Char) : List Char :=
  match c with
  | '"' => ['\\', '"']
  | '\\' => ['\\', '\\']
  | '\n' => ['\\', 'n']
  | '\r' => ['\\', 'r']
  | '\t' => ['\\', 't']
  | '\x00' => ['\\', '0']
  | _ => if isHidden c then '\\' :: 'u' :: '\x7b' :: hexDigits c.toNat ++ ['\x7d'] else [c]

/-- A text in quotes. -/
def quote (chars : List Char) : List Char := '"' :: chars.flatMap quoteChar ++ ['"']

/-- Quoted texts in brackets. -/
def quoteList (texts : List (List Char)) : List Char :=
  '[' :: ((texts.map quote).intersperse [',', ' ']).flatten ++ [']']

end LiterateSite.Text
