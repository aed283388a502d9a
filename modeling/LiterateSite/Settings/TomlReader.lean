import LiterateSite.Text.Number
import LiterateSite.Settings.Toml

/-!
# Reading TOML

* `value`: a value.
* `Table.read?`: a whole document.
-/

namespace LiterateSite.Settings

open Text

/-- Reads from a text. -/
abbrev Reader := StateT (List Char) Option

namespace Reader

def rest : Reader (List Char) := get

def refuse {α : Type} : Reader α := fun _ => none

/-- Take a text if it comes next. -/
def accept (text : String) : Reader Bool := do
  let cs ← get
  if text.toList.isPrefixOf cs then
    set (cs.drop text.length)
    return true
  else return false

def expect (text : String) : Reader Unit := do
  if ← accept text then return () else refuse

/-- Take the characters that satisfy `p`. -/
def takeWhile (p : Char → Bool) : Reader (List Char) := do
  let cs ← get
  set (cs.dropWhile p)
  return cs.takeWhile p

/-- Spaces and tabs. -/
def blanks : Reader Unit := do
  let _ ← takeWhile fun c => c == ' ' || c == '\t'

end Reader

open Reader

/-- A control character that no text may hold. -/
def isControl (c : Char) : Bool := (c.toNat < 32 && c != '\t') || c.toNat == 127

/-- A comment, if there is one. -/
def comment : Reader Unit := do
  if ← accept "#" then
    let body ← takeWhile fun c => c != '\n' && c != '\r'
    if body.any isControl then refuse

/-- The end of a line or of the text. -/
def lineEnd : Reader Unit := do
  if (← rest).isEmpty then return ()
  if ← accept "\n" then return ()
  expect "\r\n"

/-- The character that an escape stands for, and the text after it. -/
def escape? (text : List Char) : Option (Char × List Char) :=
  let unicode := fun (n : Nat) (rest : List Char) => do
    let digits := rest.take n
    if digits.length < n then none
    let code ← hexNumber? digits
    if h : code.isValidChar then return (Char.ofNatAux code h, rest.drop n) else none
  match text with
  | 'b' :: rest => some ('\x08', rest)
  | 't' :: rest => some ('\t', rest)
  | 'n' :: rest => some ('\n', rest)
  | 'f' :: rest => some ('\x0c', rest)
  | 'r' :: rest => some ('\r', rest)
  | '"' :: rest => some ('"', rest)
  | '\\' :: rest => some ('\\', rest)
  | 'u' :: rest => unicode 4 rest
  | 'U' :: rest => unicode 8 rest
  | _ => none

/-- The body of a basic string on one line, and the rest; `fuel` is more than the length. -/
def basicBody? : Nat → List Char → Option (List Char × List Char)
  | 0, _ => none
  | fuel + 1, text =>
    match text with
    | [] => none
    | '"' :: rest => some ([], rest)
    | '\\' :: rest => do
      let (c, rest) ← escape? rest
      let (body, after) ← basicBody? fuel rest
      return (c :: body, after)
    | c :: rest =>
      if isControl c then none
      else (basicBody? fuel rest).map fun (body, after) => (c :: body, after)

/-- Past blanks and line ends. -/
def dropBlankLines (text : List Char) : List Char :=
  text.dropWhile fun c => c == ' ' || c == '\t' || c == '\n' || c == '\r'

/-- A backslash at the end of a line: the text after the blanks that it joins. -/
def joinedLine? (text : List Char) : Option (List Char) :=
  match text.dropWhile fun c => c == ' ' || c == '\t' with
  | '\n' :: rest => some (dropBlankLines rest)
  | '\r' :: '\n' :: rest => some (dropBlankLines rest)
  | _ => none

/-- The quotes that end a string of several lines, of which up to two belong to its body. -/
def closingQuotes? (quote : Char) (text : List Char) : Option (List Char × List Char) :=
  let n := (text.takeWhile (· == quote)).length
  if 3 ≤ n && n ≤ 5 then some (List.replicate (n - 3) quote, text.drop n) else none

/-- The body of a string of several lines, and the rest. -/
def longBody? (quote : Char) : Nat → List Char → Option (List Char × List Char)
  | 0, _ => none
  | fuel + 1, text =>
    match text with
    | [] => none
    | '\r' :: '\n' :: rest =>
      (longBody? quote fuel rest).map fun (body, after) => ('\n' :: body, after)
    | c :: rest =>
      if c == quote then
        match closingQuotes? quote text with
        | some found => some found
        | none =>
          if (text.takeWhile (· == quote)).length > 5 then none
          else (longBody? quote fuel rest).map fun (body, after) => (c :: body, after)
      else if c == '\\' && quote == '"' then
        match joinedLine? rest with
        | some rest => longBody? quote fuel rest
        | none => do
          let (e, rest) ← escape? rest
          let (body, after) ← longBody? quote fuel rest
          return (e :: body, after)
      else if isControl c && c != '\n' then none
      else (longBody? quote fuel rest).map fun (body, after) => (c :: body, after)

/-- Past the line end that may follow the quotes of a string of several lines. -/
def dropFirstNewline : List Char → List Char
  | '\n' :: rest => rest
  | '\r' :: '\n' :: rest => rest
  | text => text

/-- The body of a literal string on one line, and the rest. -/
def literalBody? (text : List Char) : Option (List Char × List Char) :=
  let body := text.takeWhile fun c => c != '\'' && !isControl c
  match text.drop body.length with
  | '\'' :: rest => some (body, rest)
  | _ => none

/-- A string that stands on one line. -/
def shortString : Reader (List Char) := do
  if ← accept "\"" then
    let text ← rest
    StateT.lift (basicBody? (text.length + 1) text) >>= fun (body, after) => do
      set after
      return body
  else
    expect "'"
    StateT.lift (literalBody? (← rest)) >>= fun (body, after) => do
      set after
      return body

/-- A string. -/
def string : Reader (List Char) := do
  let long := fun (quote : Char) => do
    let text := dropFirstNewline (← rest)
    StateT.lift (longBody? quote (text.length + 1) text) >>= fun (body, after) => do
      set after
      return body
  if ← accept "\"\"\"" then long '"'
  else if ← accept "'''" then long '\''
  else shortString

def isBareChar (c : Char) : Bool := c.isAlphanum || c == '_' || c == '-'

/-- A key without dots. -/
def simpleKey : Reader (List Char) := do
  match (← rest).head? with
  | some c =>
    if c == '"' || c == '\'' then shortString
    else
      let name ← takeWhile isBareChar
      if name.isEmpty then refuse else return name
  | none => refuse

/-- A key, by its parts between dots, at most as many as `fuel`. -/
def dottedKey : Nat → Reader (List (List Char))
  | 0 => refuse
  | fuel + 1 => do
    blanks
    let first ← simpleKey
    blanks
    if ← accept "." then return first :: (← dottedKey fuel) else return [first]

/-- Arrays and inline tables are nested less deep than this, and keys have fewer parts. -/
def nestingLimit : Nat := 80

/-- A key, by its parts between dots. -/
def key : Reader (List (List Char)) := do
  let parts ← dottedKey ((← rest).length + 1)
  if parts.length < nestingLimit then return parts else refuse

/-- Digits with single underscores between them. -/
def groupedDigits? (isDigit : Char → Bool) (text : List Char) : Option (List Char) :=
  let parts := text.splitBy fun a b => a != '_' && b != '_'
  let sound := parts.zipIdx.all fun (part, i) =>
    if i % 2 == 0 then part.all isDigit else part == ['_']
  if text.isEmpty || !sound || parts.length % 2 == 0 then none else some (text.filter (· != '_'))

def isHexDigit (c : Char) : Bool := (hexValue? c).isSome

/-- The number that digits write in a base. -/
def numberIn (base : Nat) (digits : List Char) : Nat :=
  digits.foldl (fun n c => n * base + (hexValue? c).getD 0) 0

/-- The number is one of 64 bits. -/
def inRange (n : Int) : Option Toml :=
  if -9223372036854775808 ≤ n && n ≤ 9223372036854775807 then some (.int n) else none

/-- A whole number. -/
def integer? (text : List Char) : Option Toml :=
  match text with
  | '0' :: 'x' :: ds => (groupedDigits? isHexDigit ds).bind fun ds => inRange (numberIn 16 ds)
  | '0' :: 'o' :: ds =>
    (groupedDigits? (fun c => '0' ≤ c && c ≤ '7') ds).bind fun ds => inRange (numberIn 8 ds)
  | '0' :: 'b' :: ds =>
    (groupedDigits? (fun c => c == '0' || c == '1') ds).bind fun ds => inRange (numberIn 2 ds)
  | _ =>
    let negative := text.head? == some '-'
    let ds := if negative || text.head? == some '+' then text.drop 1 else text
    if ds.head? == some '0' && ds.length > 1 then none
    else
      (groupedDigits? Char.isDigit ds).bind fun ds =>
        let n : Int := numberIn 10 ds
        inRange (if negative then -n else n)

/-- A number with a fraction or an exponent, or one that is none. -/
def float? (text : List Char) : Option Toml :=
  let body := if text.head? == some '-' || text.head? == some '+' then text.drop 1 else text
  if body == "inf".toList || body == "nan".toList then some .float
  else
    let whole := body.takeWhile fun c => c.isDigit || c == '_'
    let afterWhole := body.drop whole.length
    let (fraction, afterFraction) : Option (List Char) × List Char :=
      match afterWhole with
      | '.' :: r =>
        let ds := r.takeWhile fun c => c.isDigit || c == '_'
        (some ds, r.drop ds.length)
      | r => (none, r)
    let exponent : Option (List Char) :=
      match afterFraction with
      | [] => none
      | e :: r =>
        if e == 'e' || e == 'E' then
          some (if r.head? == some '-' || r.head? == some '+' then r.drop 1 else r)
        else some []
    let sound := fun (part : Option (List Char)) =>
      part.all fun ds => (groupedDigits? Char.isDigit ds).isSome
    let leading := whole.head? == some '0' && whole.length > 1
    if (fraction.isSome || exponent.isSome) && !leading && sound (some whole) && sound fraction
        && sound exponent
    then some .float else none

/-- Two digits between bounds. -/
def twoDigits? (low high : Nat) (text : List Char) : Option (List Char) :=
  match text with
  | a :: b :: rest =>
    if a.isDigit && b.isDigit && low ≤ decimalNumber [a, b] && decimalNumber [a, b] ≤ high then
      some rest
    else none
  | _ => none

/-- The number of days of a month. -/
def daysIn (year month : Nat) : Nat :=
  if month == 2 then if year % 4 == 0 && (year % 100 != 0 || year % 400 == 0) then 29 else 28
  else if [4, 6, 9, 11].contains month then 30
  else 31

/-- A date at the start of a text, and the rest. -/
def date? (text : List Char) : Option (List Char) :=
  let year := text.take 4
  match text.drop 4 with
  | '-' :: a :: b :: '-' :: rest => do
    if !(year.length == 4 && year.all Char.isDigit) then none
    let _ ← twoDigits? 1 12 [a, b]
    twoDigits? 1 (daysIn (decimalNumber year) (decimalNumber [a, b])) rest
  | _ => none

/-- A time of day at the start of a text, and the rest. -/
def clock? (text : List Char) : Option (List Char) := do
  let rest ← twoDigits? 0 23 text
  let rest ← (if rest.head? == some ':' then twoDigits? 0 59 (rest.drop 1) else none)
  let rest ← (if rest.head? == some ':' then twoDigits? 0 60 (rest.drop 1) else none)
  match rest with
  | '.' :: fraction =>
    let ds := fraction.takeWhile Char.isDigit
    if ds.isEmpty then none else return fraction.drop ds.length
  | _ => return rest

/-- An offset from universal time, or nothing. -/
def isOffset (text : List Char) : Bool :=
  match text with
  | [] => true
  | ['Z'] | ['z'] => true
  | c :: rest =>
    (c == '+' || c == '-') &&
      match twoDigits? 0 23 rest with
      | some (':' :: rest) => twoDigits? 0 59 rest == some []
      | _ => false

/-- A date, a time, or both. -/
def time? (text : List Char) : Option Toml :=
  match date? text with
  | some [] => some .time
  | some (sep :: rest) =>
    if sep == 'T' || sep == 't' || sep == ' ' then
      match clock? rest with
      | some rest => if isOffset rest then some .time else none
      | none => none
    else none
  | none => if clock? text == some [] then some .time else none

/-- A character of a number or a time. -/
def isScalarChar (c : Char) : Bool := c.isAlphanum || "+-_.:".toList.contains c

/-- A truth value, a number, or a time. -/
def scalar : Reader Toml := do
  let text ← rest
  let word := text.takeWhile isScalarChar
  let spaced :=
    match text.drop word.length with
    | ' ' :: r => word ++ ' ' :: r.takeWhile isScalarChar
    | _ => word
  let read := fun (w : List Char) =>
    if w == "true".toList then some (.bool true)
    else if w == "false".toList then some (.bool false)
    else (integer? w).or ((float? w).or (time? w))
  match if spaced == word then none else time? spaced with
  | some v =>
    set (text.drop spaced.length)
    return v
  | none =>
    match read word with
    | some v =>
      set (text.drop word.length)
      return v
    | none => refuse

/-- Blanks, line ends and comments; `fuel` is more than the length of the text. -/
def gap : Nat → Reader Unit
  | 0 => refuse
  | fuel + 1 => do
    blanks
    comment
    let text ← rest
    if text.head? == some '\n' || text.take 2 == ['\r', '\n'] then
      lineEnd
      gap fuel

/-- The length of the text that is left, and one more. -/
def enough : Reader Nat := do return (← rest).length + 1

mutual

/-- A value within so many arrays and inline tables. -/
def value (depth : Nat) : Nat → Reader Toml
  | 0 => refuse
  | fuel + 1 => do
    let inner := depth + 1
    match (← rest).head? with
    | some '"' | some '\'' => return .string (← string)
    | some '[' =>
      if inner ≥ nestingLimit then refuse
      expect "["
      return .array (← items inner fuel)
    | some '\x7b' =>
      if inner ≥ nestingLimit then refuse
      expect "\x7b"
      blanks
      if ← accept "\x7d" then return .table .inline []
      return .table .inline (← inlineEntries inner fuel [])
    | _ => scalar

/-- The items of an array, up to its closing bracket. -/
def items (depth : Nat) : Nat → Reader (List Toml)
  | 0 => refuse
  | fuel + 1 => do
    gap (← enough)
    if ← accept "]" then return []
    let v ← value depth fuel
    gap (← enough)
    if ← accept "," then return v :: (← items depth fuel)
    expect "]"
    return [v]

/-- The entries of an inline table, up to its closing brace. -/
def inlineEntries (depth : Nat) : Nat → Table → Reader Table
  | 0, _ => refuse
  | fuel + 1, t => do
    let keys ← key
    expect "="
    blanks
    let v ← value depth fuel
    match Table.insertKey? v keys t with
    | none => refuse
    | some t =>
      blanks
      if ← accept "," then
        blanks
        inlineEntries depth fuel t
      else
        expect "\x7d"
        return t

end

/-- The rest of a line after what it says. -/
def lineRest : Reader Unit := do
  blanks
  comment
  lineEnd

/-- Read the lines of a document; `path` leads to the open table. -/
def document : Nat → List (List Char) → Table → Reader Table
  | 0, _, _ => refuse
  | fuel + 1, path, t => do
    blanks
    match ← rest with
    | [] => return t
    | '#' :: _ | '\n' :: _ | '\r' :: _ =>
      lineRest
      document fuel path t
    | '[' :: '[' :: _ =>
      expect "[["
      let keys ← key
      expect "]]"
      lineRest
      match t.addElement? keys with
      | some t => document fuel keys t
      | none => refuse
    | '[' :: _ =>
      expect "["
      let keys ← key
      expect "]"
      lineRest
      match t.openTable? keys with
      | some t => document fuel keys t
      | none => refuse
    | _ =>
      let keys ← key
      expect "="
      blanks
      let v ← value 0 (← enough)
      lineRest
      match t.assign? path keys v with
      | some t => document fuel path t
      | none => refuse

/-- Read a document. -/
def Table.read? (text : List Char) : Option Table := do
  let text := if text.head? == some '\uFEFF' then text.drop 1 else text
  let (t, _) ← document (text.length + 2) [] [] text
  return t

end LiterateSite.Settings
