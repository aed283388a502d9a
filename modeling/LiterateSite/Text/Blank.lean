/-!
# Blank characters

The `White_Space` property, and trimming by it.

* `isBlank`: the 25 characters of the property.
* `trimStart`, `trimEnd`, `trim`: drop blank characters from the ends of a text.
* `isBlankText`: every character is blank.
-/

namespace LiterateSite.Text

/-- The `White_Space` property of the Unicode standard. -/
def isBlank (c : Char) : Bool :=
  let n := c.toNat
  (9 ≤ n && n ≤ 13) || n == 0x20 || n == 0x85 || n == 0xA0 || n == 0x1680
    || (0x2000 ≤ n && n ≤ 0x200A) || n == 0x2028 || n == 0x2029 || n == 0x202F
    || n == 0x205F || n == 0x3000

/-- Every character of the text is blank. -/
def isBlankText (cs : List Char) : Bool := cs.all isBlank

/-- Drop from the end the characters that satisfy `p`. -/
def dropEndWhile (p : Char → Bool) (cs : List Char) : List Char :=
  (cs.reverse.dropWhile p).reverse

def trimStart (cs : List Char) : List Char := cs.dropWhile isBlank

def trimEnd (cs : List Char) : List Char := dropEndWhile isBlank cs

def trim (cs : List Char) : List Char := trimEnd (trimStart cs)

/-- Drop from both ends the characters that satisfy `p`. -/
def trimBoth (p : Char → Bool) (cs : List Char) : List Char :=
  dropEndWhile p (cs.dropWhile p)

@[simp] theorem trimStart_nil : trimStart [] = [] := rfl

@[simp] theorem trimEnd_nil : trimEnd [] = [] := rfl

end LiterateSite.Text
