import LiterateSite.Number.Decimal
import LiterateSite.Template.Error
import LiterateSite.Text.Blank

/-!
# Tokens of templates

A template is text with tags in it. What cannot be read becomes a token or piece of its own, since
what stands before it counts first.

* `Token`: words, literals and marks within a tag.
* `Piece`: text, an expression, or a statement's tag.
* `pieces`: the pieces of a source.
-/

namespace LiterateSite.Template

open Number Text

/-- A token within a tag. -/
inductive Token where
  | word (name : List Char)
  | text (chars : List Char)
  | int (n : Nat)
  | float (x : Float)
  | mark (chars : List Char)
  /-- The text from here on cannot be read. -/
  | bad (e : TemplateError)
  deriving BEq, Repr, Inhabited

/-- A piece of a template. -/
inductive Piece where
  | text (chars : List Char)
  | print (tokens : List Token)
  | tag (tokens : List Token)
  /-- The text from here on cannot be read. -/
  | bad (e : TemplateError)
  deriving BEq, Repr, Inhabited

def isWordStart (c : Char) : Bool := c.isAlpha || c == '_'

def isWordChar (c : Char) : Bool := c.isAlphanum || c == '_'

/-- Blanks between tokens. -/
def isTagBlank (c : Char) : Bool :=
  c == ' ' || c == '\t' || c == '\n' || c == '\r' || c == '\x0c'

/-! ## Strings -/

/-- The character that a letter after a backslash stands for. -/
def escapeLetter? (c : Char) : Option Char :=
  match c with
  | '"' | '\\' | '/' | '\'' => some c
  | 'b' => some '\x08'
  | 'f' => some '\x0c'
  | 'n' => some '\n'
  | 'r' => some '\r'
  | 't' => some '\t'
  | _ => none

/-- The body of a string as it is written, up to its quote, and the rest. -/
def stringBody? (quote : Char) : List Char → Option (List Char × List Char)
  | [] => none
  | '\\' :: c :: rest => (stringBody? quote rest).map fun (body, after) => ('\\' :: c :: body, after)
  | c :: rest =>
    if c == quote then some ([], rest)
    else (stringBody? quote rest).map fun (body, after) => (c :: body, after)

/-- The first half of a character that is written in two halves. -/
def isFirstHalf (n : Nat) : Bool := 0xD800 ≤ n && n ≤ 0xDBFF

/-- The second half of a character that is written in two halves. -/
def isSecondHalf (n : Nat) : Bool := 0xDC00 ≤ n && n ≤ 0xDFFF

/-- The number of four hexadecimal digits; a plus sign may stand in place of the first. -/
def fourDigits? (digits : List Char) : Option Nat :=
  match digits with
  | '+' :: rest => hexNumber? rest
  | _ => hexNumber? digits

/-- A digit in base eight. -/
def isOctal (c : Char) : Bool := '0' ≤ c && c ≤ '7'

/-- The number of digits in base eight. -/
def octalNumber (digits : List Char) : Nat :=
  digits.foldl (fun n c => n * 8 + (c.toNat - '0'.toNat)) 0

/-- What stands after a backslash, and the text after it: the characters that it means, or the first
half of one. `fuel` is at least the length of the text. -/
def unescapeFrom : Nat → Option Nat → List Char → Except TemplateError (List Char)
  | 0, half, _ => if half.isSome then .error .badEscape else .ok []
  | _ + 1, half, [] => if half.isSome then .error .badEscape else .ok []
  | fuel + 1, half, '\\' :: 'u' :: a :: b :: c :: d :: rest =>
    match fourDigits? [a, b, c, d], half with
    | none, _ => .error .badEscape
    | some n, some first =>
      if isSecondHalf n then
        (unescapeFrom fuel none rest).map
          (Char.ofNat (0x10000 + (first - 0xD800) * 0x400 + (n - 0xDC00)) :: ·)
      else .error .badEscape
    | some n, none =>
      if isFirstHalf n then unescapeFrom fuel (some n) rest
      else if isSecondHalf n then .error .badEscape
      else (unescapeFrom fuel none rest).map (Char.ofNat n :: ·)
  | fuel + 1, half, c :: rest =>
    if half.isSome then .error .badEscape
    else if c != '\\' then (unescapeFrom fuel none rest).map (c :: ·)
    else
      match rest with
      | [] => .error .badEscape
      | 'u' :: _ => .error .badEscape
      | 'x' :: a :: b :: rest =>
        match hexNumber? [a, b] with
        | some n => (unescapeFrom fuel none rest).map (Char.ofNat n :: ·)
        | none => .error .badEscape
      | 'x' :: _ => .error .badEscape
      | d :: rest =>
        match escapeLetter? d with
        | some e => (unescapeFrom fuel none rest).map (e :: ·)
        | none =>
          if isOctal d then
            let more := (rest.take 2).takeWhile isOctal
            let n := octalNumber (d :: more)
            if n > 255 then .error .badEscape
            else (unescapeFrom fuel none (rest.drop more.length)).map (Char.ofNat n :: ·)
          else (unescapeFrom fuel none rest).map fun chars => '\\' :: d :: chars

/-- What the body of a string says. -/
def unescape (body : List Char) : Except TemplateError (List Char) :=
  unescapeFrom (body.length + 1) none body

/-! ## Numbers -/

/-- What the characters of a number have been so far. -/
inductive NumberPart where
  | front
  | afterPoint
  | powerMark
  | power
  deriving DecidableEq, Repr, Inhabited

/-- The part of a number that a character continues it with. -/
def NumberPart.next? (part : NumberPart) (c : Char) : Option NumberPart :=
  if c == '_' then some part
  else if c.isDigit then some (if part == .powerMark then .power else part)
  else
    match part with
    | .front =>
      if c == '.' then some .afterPoint else if c == 'e' || c == 'E' then some .powerMark else none
    | .afterPoint => if c == 'e' || c == 'E' then some .powerMark else none
    | .powerMark => if c == '+' || c == '-' then some .power else none
    | .power => none

/-- The characters of a number, the part that they end with, and the rest. -/
def numberChars : NumberPart → List Char → List Char × NumberPart × List Char
  | part, [] => ([], part, [])
  | part, c :: rest =>
    match part.next? c with
    | some part =>
      let (chars, last, rest) := numberChars part rest
      (c :: chars, last, rest)
    | none => ([], part, c :: rest)

/-- The greatest integer that can be written. -/
def greatestInt : Nat := Nat.pow 2 128 - 1

/-- An integer, if it is not too large. -/
def intToken (n : Option Nat) : Token :=
  match n with
  | some n => if n ≤ greatestInt then .int n else .bad .badSource
  | none => .bad .badSource

/-- The value of a digit in a base of up to sixteen. -/
def digitIn? (base : Nat) (c : Char) : Option Nat := (hexValue? c).filter (· < base)

/-- The number of digits in a base. -/
def numberIn? (base : Nat) (digits : List Char) : Option Nat :=
  if digits.isEmpty then none
  else digits.foldlM (fun n c => (digitIn? base c).map (n * base + ·)) 0

/-- The base that a letter after a zero stands for. -/
def baseOf? (c : Char) : Option Nat :=
  match c with
  | 'b' | 'B' => some 2
  | 'o' | 'O' => some 8
  | 'x' | 'X' => some 16
  | _ => none

/-- A number of digits that belong together with low lines between them. -/
def clean (chars : List Char) (read : List Char → Token) : Token :=
  if chars.getLast? == some '_' then .bad .badSource else read (chars.filter (· != '_'))

/-- The number at the start of a text that begins with a digit, and the rest. After a point it is an
integer. -/
def number (afterDot : Bool) (text : List Char) : Token × List Char :=
  match text with
  | '0' :: letter :: rest =>
    match baseOf? letter with
    | some base =>
      let isPart := fun c => c == '_' || c.isDigit || (base == 16 && (hexValue? c).isSome)
      (clean (rest.takeWhile isPart) fun digits => intToken (numberIn? base digits),
        rest.dropWhile isPart)
    | none => decimal
  | _ => decimal
where
  decimal : Token × List Char :=
    if afterDot then
      let isPart := fun c => c == '_' || c.isDigit
      (clean (text.takeWhile isPart) fun digits => intToken (numberIn? 10 digits),
        text.dropWhile isPart)
    else
      let (chars, part, rest) := numberChars .front text
      (clean chars fun digits =>
        if part == .front then intToken (numberIn? 10 digits)
        else
          match read? digits with
          | some x => .float x
          | none => .bad .badSource, rest)

/-- Marks of two characters. -/
def doubleMarks : List (List Char) :=
  [['/', '/'], ['*', '*'], ['=', '='], ['!', '='], ['>', '='], ['<', '=']]

/-- Marks of one character. -/
def singleMarks : List Char :=
  ['+', '-', '*', '/', '%', '~', '.', ',', ':', '|', '=', '<', '>', '(', ')', '[', ']', '\x7b', '\x7d']

/-- The first token of a text that begins with no blank, and the rest. `afterDot` tells that it
follows a point. -/
def token (afterDot : Bool) (c : Char) (rest : List Char) : Token × List Char :=
  let text := c :: rest
  if isWordStart c then (.word (text.takeWhile isWordChar), text.dropWhile isWordChar)
  else if c.isDigit then number afterDot text
  else if c == '"' || c == '\'' then
    match stringBody? c rest with
    | some (body, rest) =>
      match unescape body with
      | .ok chars => (.text chars, rest)
      | .error e => (.bad e, rest)
    | none => (.bad .badSource, [])
  else if doubleMarks.contains (text.take 2) then (.mark (text.take 2), rest.drop 1)
  else if singleMarks.contains c then (.mark [c], rest)
  else (.bad .badSource, rest)

/-- How the text around a tag is trimmed. -/
structure Trim where
  before : Bool := false
  after : Bool := false
  deriving DecidableEq, Repr, Inhabited

/-- The end of a tag, whose last characters are `closing`: whether the blanks after it go, and the
rest. -/
def tagEnd? (closing : List Char) (text : List Char) : Option (Bool × List Char) :=
  if closing.isPrefixOf text then some (false, text.drop closing.length)
  else
    match text with
    | '-' :: rest =>
      if closing.isPrefixOf rest then some (true, rest.drop closing.length) else none
    | '+' :: rest =>
      if closing.isPrefixOf rest then some (false, rest.drop closing.length) else none
    | _ => none

/-- The number of brackets that are open after a token. -/
def depthAfter (depth : Nat) : Token → Nat
  | .mark ['('] | .mark ['['] | .mark ['\x7b'] => depth + 1
  | .mark [')'] | .mark [']'] | .mark ['\x7d'] => depth - 1
  | _ => depth

/-- The tokens of a tag up to its end, whether the blanks after it go, and the rest; nothing is left
after what cannot be read. `fuel` is more than the length of the text. -/
def tagTokens (closing : List Char) : Nat → Nat → Bool → List Char → List Token × Bool × List Char
  | 0, _, _, _ => ([.bad .badSource], false, [])
  | fuel + 1, depth, afterDot, text =>
    match text.dropWhile isTagBlank with
    | [] => ([.bad .badSource], false, [])
    | c :: rest =>
      match if depth == 0 then tagEnd? closing (c :: rest) else none with
      | some (trim, rest) => ([], trim, rest)
      | none =>
        match token afterDot c rest with
        | (.bad e, _) => ([.bad e], false, [])
        | (t, rest) =>
          let (ts, trim, rest) :=
            tagTokens closing fuel (depthAfter depth t) (t == .mark ['.']) rest
          (t :: ts, trim, rest)

/-- The text after a comment, and whether the blanks after it go. -/
def afterComment? : Bool → List Char → Option (Bool × List Char)
  | hyphen, '#' :: '\x7d' :: rest => some (hyphen, rest)
  | _, c :: rest => afterComment? (c == '-') rest
  | _, [] => none

/-- A tag of one word: how it trims, and the text after it. The text begins after the brace and
percent sign. -/
def wordTag? (word : List Char) (text : List Char) : Option (Trim × List Char) :=
  let before := text.head? == some '-'
  let text := if before || text.head? == some '+' then text.drop 1 else text
  let text := text.dropWhile isTagBlank
  if word.isPrefixOf text then
    (tagEnd? ['%', '\x7d'] ((text.drop word.length).dropWhile isTagBlank)).map fun (after, rest) =>
      ({ before, after }, rest)
  else none

/-- The text up to the tag that ends a raw text, how that tag trims, and the rest. -/
def rawText? : List Char → Option (List Char × Trim × List Char)
  | [] => none
  | '\x7b' :: '%' :: rest =>
    match wordTag? "endraw".toList rest with
    | some (trim, after) => some ([], trim, after)
    | none => (rawText? rest).map fun (chars, found) => ('\x7b' :: '%' :: chars, found)
  | c :: rest => (rawText? rest).map fun (chars, found) => (c :: chars, found)

/-- A piece of text, unless it is empty. -/
def textPiece (chars : List Char) : List Piece := if chars.isEmpty then [] else [.text chars]

/-- The text up to the next tag or comment. -/
def plain : List Char → List Char × List Char
  | [] => ([], [])
  | '\x7b' :: c :: rest =>
    if c == '\x7b' || c == '%' || c == '#' then ([], '\x7b' :: c :: rest)
    else
      let (chars, after) := plain (c :: rest)
      ('\x7b' :: chars, after)
  | c :: rest =>
    let (chars, after) := plain rest
    (c :: chars, after)

/-- Past the sign that trims, at the start of a tag. -/
def dropSign (text : List Char) : List Char :=
  match text with
  | '-' :: rest | '+' :: rest => rest
  | _ => text

/-- The pieces of a text. `trim` tells that the blanks at its start go; `fuel` is more than its
length. -/
def piecesFrom : Nat → Bool → List Char → List Piece
  | 0, _, _ => [.bad .badSource]
  | fuel + 1, trim, text =>
    let (chars, rest) := plain text
    let chars := if trim then trimStart chars else chars
    match rest with
    | '\x7b' :: kind :: inside =>
      let before := textPiece (if inside.head? == some '-' then trimEnd chars else chars)
      match kind with
      | '#' =>
        match afterComment? false inside with
        | some (trim, rest) => before ++ piecesFrom fuel trim rest
        | none => before ++ [.bad .badSource]
      | '\x7b' =>
        let (ts, trim, rest) := tagTokens ['\x7d', '\x7d'] (inside.length + 1) 0 false (dropSign inside)
        before ++ .print ts :: piecesFrom fuel trim rest
      | _ =>
        match wordTag? "raw".toList inside with
        | some (opening, body) =>
          match rawText? body with
          | some (raw, closing, rest) =>
            let raw := if opening.after then trimStart raw else raw
            let raw := if closing.before then trimEnd raw else raw
            before ++ textPiece raw ++ piecesFrom fuel closing.after rest
          | none => before ++ [.bad .badSource]
        | none =>
          let (ts, trim, rest) := tagTokens ['%', '\x7d'] (inside.length + 1) 0 false (dropSign inside)
          before ++ .tag ts :: piecesFrom fuel trim rest
    | _ => textPiece chars

/-- A source without the line end that closes it. -/
def dropFinalNewline (source : List Char) : List Char :=
  let source := if source.getLast? == some '\n' then source.dropLast else source
  if source.getLast? == some '\r' then source.dropLast else source

/-- The pieces of a source. -/
def pieces (source : List Char) : List Piece :=
  let text := dropFinalNewline source
  piecesFrom (text.length + 1) false text

end LiterateSite.Template
