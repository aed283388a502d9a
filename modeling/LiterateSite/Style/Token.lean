import LiterateSite.Text.Number
import LiterateSite.Text.Utf8

/-!
# Tokens of style sheets

* `Token`: names, numbers, strings, addresses, blanks and marks.
* `Token.text`: a token as it is written.
* `tokens`: the tokens of a text; comments leave none.
-/

namespace LiterateSite.Style

open Text

/-- A token of a style sheet. Names, strings and addresses are held without escapes. -/
inductive Token where
  | ident (name : List Char)
  /-- A name with the parenthesis that opens its arguments. -/
  | function (name : List Char)
  | atWord (name : List Char)
  | hash (name : List Char)
  | string (content : List Char)
  | url (address : List Char)
  /-- A number with its unit, which may be empty or a percent sign. -/
  | number (digits unit : List Char)
  | blank
  /-- A mark that hides a sheet from readers of markup. -/
  | markup
  /-- What can be no token: a string that its line cuts off, or an address with a bracket. -/
  | broken
  | mark (c : Char)
  deriving DecidableEq, Repr, Inhabited

/-! ## Writing -/

/-- A character by its number, with the blank that ends the number. -/
def hexEscape (c : Char) : List Char := '\\' :: Nat.toDigits 16 c.toNat ++ [' ']

def isControlChar (c : Char) : Bool := c.toNat < 32 || c.toNat == 127

def isNameStart (c : Char) : Bool := c.isAlpha || c == '_' || c.toNat ≥ 128

def isNameChar (c : Char) : Bool := isNameStart c || c.isDigit || c == '-'

/-- A character of a name as it is written. -/
def nameChar (c : Char) : List Char :=
  if isNameChar c then [c] else if isControlChar c then hexEscape c else ['\\', c]

/-- A name as it is written. -/
def nameText (name : List Char) : List Char :=
  match name with
  | '-' :: '-' :: rest => '-' :: '-' :: rest.flatMap nameChar
  | ['-'] => ['\\', '-']
  | '-' :: c :: rest => '-' :: (if c.isDigit then hexEscape c else nameChar c) ++ rest.flatMap nameChar
  | c :: rest => (if c.isDigit then hexEscape c else nameChar c) ++ rest.flatMap nameChar
  | [] => []

/-- A string as it is written, in double quotes. -/
def stringText (content : List Char) : List Char :=
  '"' :: (content.flatMap fun c =>
    if c == '"' || c == '\\' then ['\\', c] else if isControlChar c then hexEscape c else [c]) ++ ['"']

/-- An address as it is written: without quotes unless they are shorter. -/
def urlText (address : List Char) : List Char :=
  let bare := address.flatMap fun c =>
    if c == ' ' || isControlChar c then hexEscape c
    else if "()\"'\\".toList.contains c then ['\\', c]
    else [c]
  let quoted := stringText address
  "url(".toList ++ (if quoted.length < bare.length then quoted else bare) ++ [')']

/-- The text of a token. -/
def Token.text : Token → List Char
  | .ident name => nameText name
  | .function name => nameText name ++ ['(']
  | .atWord name => '@' :: nameText name
  | .hash name => '#' :: name.flatMap nameChar
  | .string content => stringText content
  | .url address => urlText address
  | .number digits unit => digits ++ unit
  | .blank => [' ']
  | .markup | .broken => []
  | .mark c => [c]

/-! ## Reading -/

def isNewline (c : Char) : Bool := c == '\n' || c == '\r' || c == '\x0c'

def isSheetBlank (c : Char) : Bool := c == ' ' || c == '\t' || isNewline c

/-- An escape begins here. -/
def beginsEscape : List Char → Bool
  | '\\' :: c :: _ => !isNewline c
  | ['\\'] => true
  | _ => false

/-- A name begins here. -/
def beginsName (text : List Char) : Bool :=
  match text with
  | '-' :: rest => rest.head?.any (fun c => isNameStart c || c == '-') || beginsEscape rest
  | c :: _ => isNameStart c || beginsEscape text
  | [] => false

/-- A number without sign begins here. -/
def beginsDigits : List Char → Bool
  | '.' :: c :: _ => c.isDigit
  | c :: _ => c.isDigit
  | [] => false

/-- A number begins here. -/
def beginsNumber : List Char → Bool
  | '+' :: rest | '-' :: rest => beginsDigits rest
  | text => beginsDigits text

/-- The character that an escape after its backslash stands for, and the rest. -/
def escaped (text : List Char) : Char × List Char :=
  let digits := (text.take 6).takeWhile fun c => (hexValue? c).isSome
  if digits.isEmpty then
    match text with
    | c :: rest => (c, rest)
    | [] => (Utf8.replacement, [])
  else
    let n := (hexNumber? digits).getD 0
    let c := if n == 0 || !decide (Nat.isValidChar n) then Utf8.replacement else Char.ofNat n
    match text.drop digits.length with
    | '\r' :: '\n' :: rest => (c, rest)
    | b :: rest => (c, if isSheetBlank b then rest else b :: rest)
    | [] => (c, [])

/-- The name at the start of a text, and the rest; `fuel` is at least the length of the text. -/
def name : Nat → List Char → List Char × List Char
  | 0, text => ([], text)
  | fuel + 1, text =>
    match text with
    | c :: rest =>
      if isNameChar c then
        let (more, after) := name fuel rest
        (c :: more, after)
      else if beginsEscape text then
        let (c, rest) := escaped rest
        let (more, after) := name fuel rest
        (c :: more, after)
      else ([], text)
    | [] => ([], [])

/-- The digits of an exponent at the start of a text, with its mark, and the rest. -/
def exponent (text : List Char) : List Char × List Char :=
  match text with
  | e :: rest =>
    let sign := (rest.take 1).filter fun c => c == '+' || c == '-'
    let digits := (rest.drop sign.length).takeWhile Char.isDigit
    if (e == 'e' || e == 'E') && !digits.isEmpty then
      ('e' :: sign ++ digits, rest.drop (sign.length + digits.length))
    else ([], text)
  | [] => ([], [])

/-- The number at the start of a text, and the rest. -/
def number (text : List Char) : List Char × List Char :=
  let sign := (text.take 1).filter fun c => c == '+' || c == '-'
  let text := text.drop sign.length
  let whole := text.takeWhile Char.isDigit
  let (fraction, rest) :=
    match text.drop whole.length with
    | '.' :: c :: rest =>
      if c.isDigit then
        let fraction := (c :: rest).takeWhile Char.isDigit
        ('.' :: fraction, (c :: rest).drop fraction.length)
      else ([], '.' :: c :: rest)
    | rest => ([], rest)
  let (power, rest) := exponent rest
  (sign ++ whole ++ fraction ++ power, rest)

/-- The text after a comment; a comment without end takes all. -/
def afterComment : List Char → List Char
  | '*' :: '/' :: rest => rest
  | _ :: rest => afterComment rest
  | [] => []

/-- A string up to its quote, and the rest; none if its line ends before. `fuel` is more than the
length of the text. -/
def stringBody? (quote : Char) : Nat → List Char → Option (List Char) × List Char
  | 0, text => (none, text)
  | _ + 1, [] => (some [], [])
  | fuel + 1, c :: rest =>
    let put := fun (c : Char) (rest : List Char) =>
      let (content, after) := stringBody? quote fuel rest
      (content.map (c :: ·), after)
    if c == quote then (some [], rest)
    else if isNewline c then (none, c :: rest)
    else if c == '\\' then
      match rest with
      | [] => (some [], [])
      | '\r' :: '\n' :: after => stringBody? quote fuel after
      | d :: after =>
        if isNewline d then stringBody? quote fuel after
        else
          let (c, after) := escaped (d :: after)
          put c after
    else put c rest

/-- An address without quotes up to its parenthesis, and the rest; `fuel` is more than the length of
the text. -/
def urlBody? : Nat → List Char → Option (List Char) × List Char
  | 0, text => (none, text)
  | _ + 1, [] => (some [], [])
  | fuel + 1, c :: rest =>
    let put := fun (c : Char) (rest : List Char) =>
      let (content, after) := urlBody? fuel rest
      (content.map (c :: ·), after)
    if c == ')' then (some [], rest)
    else if isSheetBlank c then
      match rest.dropWhile isSheetBlank with
      | ')' :: after => (some [], after)
      | [] => (some [], [])
      | after => (none, after)
    else if c == '"' || c == '\'' || c == '(' || isControlChar c then (none, rest)
    else if c == '\\' then
      if rest.head?.any isNewline then (none, rest)
      else
        let (c, after) := escaped rest
        put c after
    else put c rest

/-- The token that a name begins, and the rest. -/
def nameToken (text : List Char) : Token × List Char :=
  let (name, after) := name text.length text
  match after with
  | '(' :: inside =>
    let start := inside.dropWhile isSheetBlank
    if name.map Char.toLower == "url".toList && start.head? != some '"' && start.head? != some '\''
    then
      match urlBody? (start.length + 1) start with
      | (some address, after) => (.url address, after)
      | (none, after) => (.broken, after)
    else (.function name, inside)
  | _ => (.ident name, after)

/-- The token at the start of a text that begins no comment, and the rest. -/
def token (c : Char) (rest : List Char) : Token × List Char :=
  let text := c :: rest
  if isSheetBlank c then (.blank, text.dropWhile isSheetBlank)
  else if c == '"' || c == '\'' then
    match stringBody? c (rest.length + 1) rest with
    | (some content, after) => (.string content, after)
    | (none, after) => (.broken, after)
  else if beginsNumber text then
    let (digits, after) := number text
    if after.head? == some '%' then (.number digits ['%'], after.drop 1)
    else if beginsName after then
      let (unit, after) := name after.length after
      (.number digits unit, after)
    else (.number digits [], after)
  else if "-->".toList.isPrefixOf text then (.markup, text.drop 3)
  else if "<!--".toList.isPrefixOf text then (.markup, text.drop 4)
  else if beginsName text then nameToken text
  else if c == '#' && (rest.head?.any isNameChar || beginsEscape rest) then
    let (name, after) := name rest.length rest
    (.hash name, after)
  else if c == '@' && beginsName rest then
    let (name, after) := name rest.length rest
    (.atWord name, after)
  else (.mark c, rest)

/-- The tokens of a text; `fuel` is at least its length. -/
def tokensFrom : Nat → List Char → List Token
  | 0, _ => []
  | _ + 1, [] => []
  | fuel + 1, '/' :: '*' :: rest => tokensFrom fuel (afterComment rest)
  | fuel + 1, c :: rest =>
    let (t, after) := token c rest
    t :: tokensFrom fuel after

/-- The tokens of a text. -/
def tokens (text : List Char) : List Token := tokensFrom text.length text

end LiterateSite.Style
