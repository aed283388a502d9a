import LiterateSite.Pattern.Reader
import LiterateSite.Shell.Filter

/-!
# Searching and replacing

* `basicPattern`: a pattern as `grep` and `sed` write it.
* `grep`: the lines with a match.
* `sed`: lines changed by a few commands.
-/

namespace LiterateSite.Shell.Tool

open Files Text

/-- A set in brackets after the opening one, as patterns write it, and the rest. -/
def bracketSet (text : List Char) : List Char × List Char :=
  let first := text.takeWhile (· == '^')
  let body := text.drop first.length
  let body' := if body.head? == some ']' then body.drop 1 else body
  let inner := setBody body'.length body'
  let start := if body.head? == some ']' then ['\\', ']'] else []
  (first.take 1 ++ start ++ inner.1, inner.2)
where
  /-- The characters up to the closing bracket; `fuel` is at least the length. -/
  setBody : Nat → List Char → List Char × List Char
    | 0, text => ([], text)
    | _ + 1, [] => ([], [])
    | _ + 1, ']' :: rest => ([], rest)
    | fuel + 1, '[' :: ':' :: rest =>
      let name := rest.takeWhile (· != ':')
      let (more, after) := setBody fuel (rest.drop (name.length + 2))
      ("[:".toList ++ name ++ ":]".toList ++ more, after)
    | fuel + 1, c :: rest =>
      let (more, after) := setBody fuel rest
      ((if c == '[' || c == '\\' || c == '&' || c == '~' then ['\\', c] else [c]) ++ more, after)

/-- A basic pattern, where parentheses, braces and some operators need a backslash; an extended one
needs none. `start` tells that a repetition would have nothing to repeat; `fuel` is at least the
length. -/
def basicPattern (extended : Bool) : Nat → Bool → List Char → List Char
  | 0, _, _ => []
  | _ + 1, _, [] => []
  | fuel + 1, _, '[' :: rest =>
    let (set, after) := bracketSet rest
    '[' :: set ++ ']' :: basicPattern extended fuel false after
  | fuel + 1, _, '\\' :: c :: rest =>
    let isOperator := "()\x7b\x7d|+?".toList.contains c
    let here :=
      if c == '<' || c == '>' then ['\\', 'b']
      else if isOperator && !extended then [c]
      else ['\\', c]
    here ++ basicPattern extended fuel (isOperator && !extended && (c == '(' || c == '|')) rest
  | fuel + 1, start, c :: rest =>
    let here :=
      if c == '*' && start then ['\\', '*']
      else if !extended && "()\x7b\x7d|+?".toList.contains c then ['\\', c]
      else if c == '^' && !extended && !start then ['\\', '^']
      else [c]
    here ++ basicPattern extended fuel (start && c == '^' || (extended && (c == '(' || c == '|'))) rest

/-- The pattern that a tool reads. -/
def searchPattern? (extended ignoreCase : Bool) (text : List Char) : Option Pattern :=
  Pattern.read? ((if ignoreCase then "(?i)".toList else [])
    ++ basicPattern extended text.length true text)

/-- The same text with what has a meaning in patterns escaped. -/
def literalPattern (text : List Char) : List Char :=
  text.flatMap fun c => if c.isAlphanum || c.toNat > 127 then [c] else ['\\', c]

/-- Write the lines with a match. -/
def grep : Tool := fun args st =>
  let (given, args) := optionValue 'e' args
  let (opts, others) := options args
  let has := hasFlag opts
  let (patternText, names) :=
    match given with
    | some p => (p, others)
    | none => (others.headD [], others.drop 1)
  let text := if has 'F' then literalPattern patternText else patternText
  let text :=
    if has 'x' then "^".toList ++ text ++ ['$']
    else if has 'w' then "\\b".toList ++ text ++ "\\b".toList
    else text
  match searchPattern? (has 'E') (has 'i') text with
  | none => finish st 2
  | some p =>
    let named := names.length > 1 && !has 'h'
    let all := contents "grep" names st
    let results : List (Nat × Chunk) := all.map fun (name, c) =>
      match c with
      | .error text => ((0 : Nat), (⟨true, Utf8.encode text⟩ : Chunk))
      | .ok bytes =>
        let title := if named then name ++ [':'] else []
        let lines := ((byteLines bytes).zipIdx 1).filter fun (line, _) =>
          (p.find? (Utf8.decodeLossy (withoutEnd line))).isSome != has 'v'
        let written :=
          if has 'q' then []
          else if has 'c' then Utf8.encode (title ++ (toString lines.length).toList ++ ['\n'])
          else if has 'l' then (if lines.isEmpty then [] else Utf8.encode (name ++ ['\n']))
          else lines.flatMap fun (line, n) =>
            Utf8.encode (title ++ (if has 'n' then (toString n).toList ++ [':'] else []))
              ++ withEnd line
        (lines.length, ⟨false, written⟩)
    let status := if anyFailed all then 2 else if results.any (·.1 > 0) then 0 else 1
    { state := { st.drained names with status }
      chunks := (results.map (·.2)).filter fun c => !c.bytes.isEmpty }

/-! ## Changing lines -/

/-- The lines that a command is for. -/
inductive Address where
  | every
  | line (n : Nat)
  | last
  | matching (p : Pattern)
  /-- From a line to another, or to the end. -/
  | range (first : Nat) (final : Option Nat)
  deriving Inhabited

/-- What is done to a line. -/
inductive Change where
  | delete
  | print
  | quit
  | substitute (p : Pattern) (replacement : List Char) (everywhere print : Bool)
  deriving Inhabited

/-- The text up to a mark that no backslash precedes, and the rest. -/
def upToMark (mark : Char) : List Char → List Char × List Char
  | [] => ([], [])
  | '\\' :: c :: rest =>
    let (inside, after) := upToMark mark rest
    (if c == mark then c :: inside else '\\' :: c :: inside, after)
  | c :: rest =>
    if c == mark then ([], rest)
    else
      let (inside, after) := upToMark mark rest
      (c :: inside, after)

/-- An address, and the rest. -/
def address? (extended : Bool) (text : List Char) : Option (Address × List Char) :=
  match text with
  | '$' :: rest => some (.last, rest)
  | '/' :: rest =>
    let (p, after) := upToMark '/' rest
    (searchPattern? extended false p).map fun p => (.matching p, after)
  | c :: _ =>
    if c.isDigit then
      let digits := text.takeWhile Char.isDigit
      some (.line (decimalNumber digits), text.drop digits.length)
    else some (.every, text)
  | [] => some (.every, [])

/-- An address that may begin a range, and the rest. -/
def addressFrom? (extended : Bool) (first : Address) (text : List Char) :
    Option (Address × List Char) :=
  match first, text with
  | .line a, ',' :: rest =>
    match address? extended rest with
    | some (.line b, rest) => some (.range a (some b), rest)
    | some (.last, rest) => some (.range a none, rest)
    | _ => none
  | _, rest => some (first, rest)

/-- A command for lines. -/
def change? (extended : Bool) (text : List Char) : Option (Address × Change) := do
  let (first, rest) ← address? extended (trimStart text)
  let (place, rest) ← addressFrom? extended first rest
  match trimStart rest with
  | ['d'] => return (place, .delete)
  | ['p'] => return (place, .print)
  | ['q'] => return (place, .quit)
  | 's' :: mark :: rest =>
    let (p, rest) := upToMark mark rest
    let (replacement, flags) := upToMark mark rest
    let p ← searchPattern? extended (flags.contains 'i' || flags.contains 'I') p
    return (place, .substitute p replacement (flags.contains 'g') (flags.contains 'p'))
  | _ => none

/-- What stands in place of a match. -/
def replacementText (found : List Char) : List Char → List Char
  | [] => []
  | '\\' :: 'n' :: rest => '\n' :: replacementText found rest
  | '\\' :: c :: rest => c :: replacementText found rest
  | '&' :: rest => found ++ replacementText found rest
  | c :: rest => c :: replacementText found rest

/-- Replace matches; `fuel` is more than the length. -/
def substituted (p : Pattern) (replacement : List Char) (everywhere : Bool) :
    Nat → Option Char → List Char → Option (List Char)
  | 0, _, _ => none
  | fuel + 1, before, text =>
    match p.search before 0 text with
    | none => none
    | some m =>
      let found := (text.drop m.start).take (m.stop.consumed - m.start)
      let rest := text.drop m.stop.consumed
      let here := text.take m.start ++ replacementText found replacement
      if !everywhere then some (here ++ rest)
      else if m.isEmpty then
        match rest with
        | [] => some here
        | c :: rest =>
          some (here ++ c :: (substituted p replacement true fuel (some c) rest).getD rest)
      else some (here ++ (substituted p replacement true fuel found.getLast? rest).getD rest)

/-- A line with its number, and whether it is the last. -/
structure NumberedLine where
  text : List Char
  number : Nat
  isLast : Bool
  deriving DecidableEq, Repr, Inhabited

/-- The address is that of a line. -/
def Address.covers (l : NumberedLine) : Address → Bool
  | .every => true
  | .line n => l.number == n
  | .last => l.isLast
  | .matching p => (p.find? l.text).isSome
  | .range first final => l.number == first || (first ≤ l.number && final.all (l.number ≤ ·))

/-- What commands make of a line: what is written, and whether lines after it are read. -/
def edited (quiet : Bool) : List (Address × Change) → NumberedLine → List (List Char) →
    List (List Char) × Bool
  | [], l, written => (written ++ (if quiet then [] else [l.text]), true)
  | (a, c) :: rest, l, written =>
    if !a.covers l then edited quiet rest l written
    else
      match c with
      | .delete => (written, true)
      | .print => edited quiet rest l (written ++ [l.text])
      | .quit => (written ++ (if quiet then [] else [l.text]), false)
      | .substitute p replacement everywhere print =>
        match substituted p replacement everywhere (l.text.length + 1) none l.text with
        | none => edited quiet rest l written
        | some text =>
          edited quiet rest { l with text } (if print then written ++ [text] else written)

/-- What commands make of lines. -/
def editedAll (quiet : Bool) (commands : List (Address × Change)) : List NumberedLine → List (List Char)
  | [] => []
  | l :: rest =>
    let (written, goOn) := edited quiet commands l []
    if goOn then written ++ editedAll quiet commands rest else written

/-- Change lines by commands. -/
def sed : Tool := fun args st =>
  let (given, args) := optionValue 'e' args
  let (opts, others) := options args
  let (script, names) :=
    match given with
    | some s => (s, others)
    | none => (others.headD [], others.drop 1)
  let extended := hasFlag opts 'E' || hasFlag opts 'r'
  let parts := (script.splitOnP fun c => c == ';' || c == '\n').filter fun p => !isBlankText p
  match parts.mapM (change? extended) with
  | none => finish st 1
  | some commands =>
    together "sed" names st fun bytes =>
      let all := byteLines bytes
      let unended := (all.getLast?.bind List.getLast?).any (· != 10)
      let lines := (all.zipIdx 1).map fun (line, n) =>
        ({ text := Utf8.decodeLossy (withoutEnd line), number := n, isLast := n == all.length } :
          NumberedLine)
      let written := (editedAll (hasFlag opts 'n') commands lines).flatMap fun text => text ++ ['\n']
      Utf8.encode (if unended then written.dropLast else written)

end LiterateSite.Shell.Tool
