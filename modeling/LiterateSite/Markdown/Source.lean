import LiterateSite.Text.Blank

/-!
# Places in a Markdown text

A Markdown text is read by place: a place is the number of characters before it.

* `Source`: a text, of which only the part before a place is seen.
* `Source.skipWhile`, `Source.find?`: go on through the text.
* `Source.lineEnd?`, `Source.blankRest?`, `Source.nextLine`: the ends of lines.
-/

namespace LiterateSite.Markdown

/-- Blanks within a line. -/
def isLineBlank (c : Char) : Bool := c == ' ' || c == '\t' || c == '\x0B' || c == '\x0C'

/-- Blanks and line ends. -/
def isSpace (c : Char) : Bool := isLineBlank c || c == '\n' || c == '\r'

/-- A text of which the characters before `stop` are seen. -/
structure Source where
  chars : Array Char
  stop : Nat
  deriving Repr, Inhabited

namespace Source

def ofList (cs : List Char) : Source := ⟨cs.toArray, cs.length⟩

/-- The part of the text before a place. -/
def upTo (s : Source) (place : Nat) : Source := { s with stop := min s.stop place }

/-- The character after a place. -/
def get? (s : Source) (place : Nat) : Option Char :=
  if place < s.stop then s.chars[place]? else none

theorem get?_eq_none (s : Source) {place : Nat} (h : s.stop ≤ place) : s.get? place = none := by
  simp [get?, Nat.not_lt.2 h]

theorem lt_stop_of_get? {s : Source} {place : Nat} {c : Char} (h : s.get? place = some c) :
    place < s.stop :=
  Nat.lt_of_not_le fun hle => by simp [s.get?_eq_none hle] at h

/-- The character after a place is `c`. -/
def has (s : Source) (place : Nat) (c : Char) : Bool := s.get? place == some c

/-- The characters from one place to another. -/
def slice (s : Source) (start stop : Nat) : List Char := (s.chars.extract start stop).toList

/-- The text goes on with `expected`. -/
def startsWith (s : Source) (place : Nat) (expected : List Char) : Bool :=
  match expected with
  | [] => true
  | c :: rest => s.has place c && s.startsWith (place + 1) rest

/-- The place after the characters that satisfy `p`. -/
def skipWhile (s : Source) (p : Char → Bool) (place : Nat) : Nat :=
  match _h : s.get? place with
  | some c => if p c then s.skipWhile p (place + 1) else place
  | none => place
termination_by s.stop - place
decreasing_by have := lt_stop_of_get? _h; omega

/-- The first place, from one on, that satisfies `p`. -/
def find? (s : Source) (p : Nat → Bool) (place : Nat) : Option Nat :=
  if _h : place < s.stop then if p place then some place else s.find? p (place + 1) else none
termination_by s.stop - place

/-- The place before the characters that satisfy `p` and end at a place. -/
def skipBack (s : Source) (p : Char → Bool) (place : Nat) : Nat :=
  match place with
  | 0 => 0
  | before + 1 => if (s.get? before).any p then s.skipBack p before else before + 1

/-- The place after blanks within a line. -/
def skipBlanks (s : Source) (place : Nat) : Nat := s.skipWhile isLineBlank place

/-- The number of characters `c` that follow. -/
def runLength (s : Source) (c : Char) (place : Nat) : Nat := s.skipWhile (· == c) place - place

/-- The place after the line end that follows. `\n`, `\r\n` and `\r` end a line, and so does the
text. -/
def lineEnd? (s : Source) (place : Nat) : Option Nat :=
  match s.get? place with
  | none => some place
  | some '\n' => some (place + 1)
  | some '\r' => some (if s.has (place + 1) '\n' then place + 2 else place + 1)
  | some _ => none

def atLineEnd (s : Source) (place : Nat) : Bool := (s.lineEnd? place).isSome

/-- The place after the rest of a line that is blank. -/
def blankRest? (s : Source) (place : Nat) : Option Nat := s.lineEnd? (s.skipBlanks place)

def isBlankRest (s : Source) (place : Nat) : Bool := (s.blankRest? place).isSome

/-- The place after the next `\n`, or the end of the text. -/
def nextLine (s : Source) (place : Nat) : Nat :=
  match s.find? (s.has · '\n') place with
  | some found => found + 1
  | none => max place s.stop

end Source

end LiterateSite.Markdown
