/-!
# Lines of a text

A line ends at `\n` or `\r\n`; the last line needs no end. A `\r` that no `\n` follows belongs
to its line.

* `lines`: the lines, without their ends.
* `joinLines`: texts put together with `\n` between them.
* `inOrder`: texts in the order of their characters' codes.
-/

namespace LiterateSite.Text

/-- The lines of a text. The text after the last line end is a line only if it is not empty. -/
def lines : List Char → List (List Char)
  | [] => []
  | '\n' :: rest => [] :: lines rest
  | '\r' :: '\n' :: rest => [] :: lines rest
  | c :: rest =>
    match lines rest with
    | [] => [[c]]
    | line :: later => (c :: line) :: later

/-- The texts with a line end between neighbours. -/
def joinLines (texts : List (List Char)) : List Char :=
  ['\n'].intercalate texts

/-- The codes of a text do not come after those of another: the first that differ decide. -/
def notAfter : List Nat → List Nat → Bool
  | [], _ => true
  | _ :: _, [] => false
  | a :: as, b :: bs => a < b || (a == b && notAfter as bs)

/-- Texts in the order of their characters' codes. -/
def inOrder (texts : List (List Char)) : List (List Char) :=
  texts.mergeSort fun a b => notAfter (a.map Char.toNat) (b.map Char.toNat)

@[simp] theorem lines_nil : lines [] = [] := rfl

end LiterateSite.Text
