import LiterateSite.Pattern.Part
import LiterateSite.Pattern.Property
import LiterateSite.Text.Number

/-!
# Reading patterns

The written form of patterns: alternatives `|`, repetitions `* + ? {n,m}` with a lazy `?`, groups
with flags, character classes with set operations, escapes and assertions. There is no lookaround
and no reference back to a group.

* `Flags`: what the flag letters in a group change.
* `Pattern.read?`: the pattern of a text; none if the text is no pattern.
-/

namespace LiterateSite

open Text

namespace PatternReader

/-- What the flag letters change. -/
structure Flags where
  /-- `i`: letters match in either case. -/
  anyCase : Bool := false
  /-- `m`: `^` and `$` hold at line ends. -/
  multiLine : Bool := false
  /-- `s`: the dot takes line ends, too. -/
  dotAll : Bool := false
  /-- `U`: repetitions are lazy, and greedy with `?`. -/
  swapGreed : Bool := false
  /-- `u`: classes hold all of Unicode. -/
  unicode : Bool := true
  /-- `x`: blanks and comments in the pattern mean nothing. -/
  spaced : Bool := false
  /-- `R`: `\r\n` ends lines, too. -/
  crlf : Bool := false

/-- The text left to read, the flags in force and the group names used. -/
structure State where
  rest : List Char
  flags : Flags := {}
  names : List (List Char) := []

/-- A step of reading; it may fail. -/
abbrev Reader := StateT State Option

/-- Drop blanks and comments. -/
def dropSpaced : List Char → Bool → List Char
  | [], _ => []
  | c :: rest, inComment =>
    if inComment then dropSpaced rest (c != '\n')
    else if isBlank c then dropSpaced rest false
    else if c == '#' then dropSpaced rest true
    else c :: rest

/-- The text left, after what the `x` flag lets pass. -/
def skipSpaced : Reader Unit :=
  modify fun s => if s.flags.spaced then { s with rest := dropSpaced s.rest false } else s

def peek? : Reader (Option Char) := do return (← get).rest.head?

/-- The next character; fails at the end. -/
def next : Reader Char := do
  match (← get).rest with
  | [] => failure
  | c :: rest =>
    modify fun s => { s with rest }
    return c

/-- Take the text `expected` if it comes next. -/
def accept (expected : String) : Reader Bool := do
  let s ← get
  let wanted := expected.toList
  if wanted.isPrefixOf s.rest then
    set { s with rest := s.rest.drop wanted.length }
    return true
  else return false

/-- Take the text `expected` or fail. -/
def require (expected : String) : Reader Unit := do
  if ← accept expected then return () else failure

/-- Take characters while `p` holds. -/
def takeWhile (p : Char → Bool) : Reader (List Char) := do
  let s ← get
  set { s with rest := s.rest.dropWhile p }
  return s.rest.takeWhile p

/-- Take characters while `p` holds, at most `n` of them, and what the `x` flag lets pass after
each. -/
def takeSpaced (p : Char → Bool) : Nat → Reader (List Char)
  | 0 => return []
  | n + 1 => do
    match ← peek? with
    | some c =>
      if !p c then return []
      let _ ← next
      skipSpaced
      return c :: (← takeSpaced p n)
    | none => return []

/-- As many characters as the text has left. -/
def left : Reader Nat := do return (← get).rest.length

/-- What stands in braces after the opening one, without what the `x` flag lets pass. -/
def braced : Reader (List Char) := do
  skipSpaced
  let body ← takeSpaced (· != '\x7d') (← left)
  require "\x7d"
  return body

/-- The character of a code point; fails for surrogates and past the last one. -/
def charOf (n : Nat) : Reader Char :=
  if Nat.isValidChar n then return Char.ofNat n else failure

/-- The character of a number in base sixteen. -/
def hexChar (digits : List Char) : Reader Char :=
  match hexNumber? digits with
  | some n => charOf n
  | none => failure

/-- The code point after `\x`, `\u` or `\U`: so many digits, or any number in braces. -/
def hexEscape (digits : Nat) : Reader Char := do
  if ← accept "\x7b" then hexChar (← braced)
  else
    let body ← takeSpaced (fun c => (hexValue? c).isSome) digits
    if body.length < digits then failure
    hexChar body

/-- What an escape stands for. -/
inductive Escape where
  | char (c : Char)
  | set (s : CharSet)
  | look (a : Assertion)

/-- The set as the flags want it. Without Unicode only ASCII letters have cases. -/
def withCase (flags : Flags) (s : CharSet) : CharSet :=
  if !flags.anyCase then s
  else if flags.unicode then .foldCase s
  else .union s (.inter (.foldCase (.inter s CharSet.ascii)) CharSet.ascii)

/-- The property after `\p` or `\P`. -/
def propertyEscape (negated : Bool) : Reader Escape := do
  let flags := (← get).flags
  if !flags.unicode then failure
  skipSpaced
  let name ←
    if ← accept "\x7b" then braced
    else do
      let c ← next
      if c == '\\' then failure
      pure [c]
  match CharSet.property? name with
  | some s =>
    let s := withCase flags s
    return .set (if negated then .compl s else s)
  | none => failure

/-- The set of a class letter, its complement if `negated`. Without Unicode the complement would
hold more than characters, so it is refused. -/
def classEscape (unicode ascii : CharSet) (negated : Bool) : Reader Escape := do
  if (← get).flags.unicode then return .set (if negated then .compl unicode else unicode)
  else if negated then failure
  else return .set ascii

/-- A word edge, or what a name in braces makes of it. Braces that hold no name are left for a
repetition. -/
def edgeEscape : Reader Escape := do
  let before ← get
  let ascii := !before.flags.unicode
  let isName := fun (c : Char) => c.isAlpha || c == '-'
  if ← accept "\x7b" then
    skipSpaced
    match ← peek? with
    | none => failure
    | some c =>
      if !isName c then
        set before
        return .look (.wordEdge ascii)
      let name ← takeSpaced isName (← left)
      require "\x7d"
      match String.ofList name with
      | "start" => return .look (.wordStart ascii)
      | "end" => return .look (.wordEnd ascii)
      | "start-half" => return .look (.wordStartHalf ascii)
      | "end-half" => return .look (.wordEndHalf ascii)
      | _ => failure
  else return .look (.wordEdge ascii)

/-- A code point of two digits is a byte if classes hold no Unicode; one past ASCII would be a piece
of a character. -/
def byteEscape : Reader Escape := do
  let flags := (← get).flags
  skipSpaced
  let inBraces := (← peek?) == some '\x7b'
  let c ← hexEscape 2
  if !flags.unicode && !inBraces && c.toNat ≥ 128 then failure
  return .char c

/-- What follows a backslash. -/
def escape : Reader Escape := do
  let c ← next
  let ascii := !(← get).flags.unicode
  match c with
  | 'x' => byteEscape
  | 'u' => skipSpaced; return .char (← hexEscape 4)
  | 'U' => skipSpaced; return .char (← hexEscape 8)
  | 'p' => propertyEscape false
  | 'P' => propertyEscape true
  | 'd' => classEscape .decimal CharSet.asciiDigit false
  | 'D' => classEscape .decimal CharSet.asciiDigit true
  | 's' => classEscape .blank CharSet.asciiBlank false
  | 'S' => classEscape .blank CharSet.asciiBlank true
  | 'w' => classEscape .word CharSet.asciiWord false
  | 'W' => classEscape .word CharSet.asciiWord true
  | 'a' => return .char '\x07'
  | 'f' => return .char '\x0C'
  | 't' => return .char '\t'
  | 'n' => return .char '\n'
  | 'r' => return .char '\r'
  | 'v' => return .char '\x0B'
  | 'A' => return .look .textStart
  | 'z' => return .look .textEnd
  | 'b' => edgeEscape
  | 'B' => return .look (.noWordEdge ascii)
  | '<' => return .look (.wordStart ascii)
  | '>' => return .look (.wordEnd ascii)
  | _ => if c.toNat < 128 && !c.isAlphanum then return .char c else failure

/-! ## Classes -/

/-- One item of a class: a character or a set. -/
def classItem : Reader Escape := do
  let c ← next
  if c == '\\' then
    match ← escape with
    | .look _ => failure
    | item => return item
  else return .char c

/-- An item as a set. Without Unicode only ASCII characters may stand in a class. -/
def itemSet : Escape → Reader CharSet
  | .char c => do
    if !(← get).flags.unicode && c.toNat ≥ 128 then failure
    return .single c
  | .set s => return s
  | .look _ => failure

/-- A range from an item on, with the text after the hyphen left in `s`. A hyphen before `]` or
another hyphen is no range. -/
def rangeFrom (first : Escape) (s : State) : Reader CharSet :=
  match s.rest with
  | ']' :: _ => itemSet first
  | '-' :: _ => itemSet first
  | _ => do
    set s
    match first, ← classItem with
    | .char low, .char high =>
      if !s.flags.unicode && high.toNat ≥ 128 then failure
      if low.val ≤ high.val then return .range low high else failure
    | _, _ => failure

/-- An item or a range of characters. -/
def classRange : Reader CharSet := do
  let first ← classItem
  skipSpaced
  let s ← get
  match s.rest with
  | [] => failure
  | '-' :: after =>
    rangeFrom first { s with rest := if s.flags.spaced then dropSpaced after false else after }
  | _ => itemSet first

/-- The name of a class up to `:]`, and the text after it. -/
def closedName? (text : List Char) : Option (List Char × List Char) :=
  match text.dropWhile (· != ':') with
  | ':' :: ']' :: rest => some (text.takeWhile (· != ':'), rest)
  | _ => none

/-- A class written `[:name:]`, if the text goes on as one. Without Unicode its complement would
hold more than characters, so it is refused. -/
def asciiClass? : Reader (Option CharSet) := do
  let s ← get
  match s.rest with
  | '[' :: ':' :: after =>
    let negated := after.head? == some '^'
    match closedName? (if negated then after.drop 1 else after) with
    | some (name, rest) =>
      match CharSet.asciiClass? name with
      | some found =>
        if negated && !s.flags.unicode then failure
        set { s with rest }
        let found := withCase s.flags found
        return some (if negated then .compl found else found)
      | none => return none
    | none => return none
  | _ => return none

/-- The operations between the parts of a class. -/
inductive SetOperation where
  | inter
  | diff
  | symmDiff

def SetOperation.apply : SetOperation → CharSet → CharSet → CharSet
  | .inter, s, t => .inter s t
  | .diff, s, t => .diff s t
  | .symmDiff, s, t => .symmDiff s t

/-- The operation that comes next, if one does. -/
def setOperation? : Reader (Option SetOperation) := do
  if ← accept "&&" then return some .inter
  else if ← accept "--" then return some .diff
  else if ← accept "~~" then return some .symmDiff
  else return none

/-- A class, or a piece of one, and how deep its brackets, items and operations are nested. -/
structure ClassPart where
  set : CharSet
  depth : Nat

/-- The items read between two operations of a class. -/
structure ClassItems where
  set : CharSet := .nothing
  count : Nat := 0
  depth : Nat := 0

namespace ClassItems

/-- One more item. -/
def add (items : ClassItems) (set : CharSet) (depth : Nat) : ClassItems :=
  { set := if items.count == 0 then set else .union items.set set
    count := items.count + 1
    depth := max items.depth depth }

/-- The items as one piece. -/
def part (items : ClassItems) : ClassPart :=
  ⟨items.set, if items.count ≤ 1 then items.depth else items.depth + 1⟩

end ClassItems

/-- What stands before an operation, and that operation. -/
abbrev Pending := Option (ClassPart × SetOperation)

/-- The items that are complete joined with what stands before their operation. -/
def combine (flags : Flags) (pending : Pending) (items : ClassItems) : ClassPart :=
  match pending with
  | none => items.part
  | some (before, operation) =>
    ⟨operation.apply (withCase flags before.set) (withCase flags items.part.set),
      max before.depth items.part.depth + 1⟩

/-- Hyphens at the start of a class, at most so many. -/
def leadingHyphens : Nat → ClassItems → Reader ClassItems
  | 0, items => return items
  | fuel + 1, items => do
    if ← accept "-" then
      skipSpaced
      leadingHyphens fuel (items.add (.single '-') 0)
    else return items

/-- The items of a class up to the closing bracket, added to those read; `inner` reads a class that
opens among them. -/
def classParts (inner : Nat → Reader ClassPart) : Nat → Pending → ClassItems → Reader ClassPart
  | 0, _, _ => failure
  | fuel + 1, pending, items => do
    skipSpaced
    let flags := (← get).flags
    if ← accept "]" then return combine flags pending items
    match ← setOperation? with
    | some operation => classParts inner fuel (some (combine flags pending items, operation)) {}
    | none =>
      match ← asciiClass? with
      | some found => classParts inner fuel pending (items.add found 0)
      | none =>
        if ← accept "[" then
          let part ← inner fuel
          classParts inner fuel pending (items.add part.set part.depth)
        else classParts inner fuel pending (items.add (← classRange) 0)

/-- A class after its opening bracket; `nesting` more brackets may open. -/
def classBody (fuel : Nat) : Nat → Reader ClassPart
  | 0 => failure
  | nesting + 1 => do
    skipSpaced
    let negated ← accept "^"
    skipSpaced
    let hyphens ← leadingHyphens (← left) {}
    let start ←
      if hyphens.count == 0 then
        if ← accept "]" then pure (hyphens.add (.single ']') 0) else pure hyphens
      else pure hyphens
    let body ← classParts (fun fuel => classBody fuel nesting) fuel none start
    let flags := (← get).flags
    -- a complement without Unicode would hold more than characters
    if negated && !flags.unicode then failure
    let set := withCase flags body.set
    return ⟨if negated then .compl set else set, body.depth + 1⟩

/-! ## Groups and repetitions -/

/-- The letters of a flag group up to `:` or `)`, which is returned. -/
def flagLetters : Nat → List Char → Bool → Bool → Reader Char
  | 0, _, _, _ => failure
  | fuel + 1, seen, negated, dangling => do
    let c ← next
    if c == ':' || c == ')' then
      if dangling || (c == ')' && seen.isEmpty) then failure
      return c
    if c == '-' then
      if negated then failure
      flagLetters fuel seen true true
    else
      if seen.contains c then failure
      let value := !negated
      let s ← get
      let f := s.flags
      let changed ← match c with
        | 'i' => pure { f with anyCase := value }
        | 'm' => pure { f with multiLine := value }
        | 's' => pure { f with dotAll := value }
        | 'U' => pure { f with swapGreed := value }
        | 'u' => pure { f with unicode := value }
        | 'x' => pure { f with spaced := value }
        | 'R' => pure { f with crlf := value }
        | _ => failure
      set { s with flags := changed }
      flagLetters fuel (c :: seen) negated false

/-- A character that may begin the name of a group. -/
def beginsName (c : Char) : Bool := c == '_' || CharSet.alphabetic.contains c

/-- A character that may stand in the name of a group. -/
def isInName (c : Char) : Bool :=
  c == '_' || c == '.' || c == '[' || c == ']' || CharSet.alphabetic.contains c
    || (match Category.ofChar c with
      | .nd | .nl | .no => true
      | _ => false)

/-- A group name up to `>`; names may not repeat. -/
def groupName : Reader Unit := do
  let name ← takeWhile (· != '>')
  require ">"
  match name with
  | [] => failure
  | c :: rest =>
    if !(beginsName c && rest.all isInName) then failure
    let s ← get
    if s.names.contains name then failure
    set { s with names := name :: s.names }

/-- A number of repetitions, with blanks around it. -/
def bound? : Reader (Option Nat) := do
  let _ ← takeWhile isBlank
  let digits ← takeSpaced Char.isDigit (← left)
  skipBlanks (← left)
  let n := decimalNumber digits
  if n ≥ Nat.pow 2 32 then failure
  return if digits.isEmpty then none else some n
where
  /-- Blanks, and what the `x` flag lets pass after each. -/
  skipBlanks (fuel : Nat) : Reader Unit := do let _ ← takeSpaced isBlank fuel

/-- The bounds of a counted repetition after its opening brace. -/
def bounds : Reader (Nat × Option Nat) := do
  skipSpaced
  let low ← bound?
  if ← accept "," then
    skipSpaced
    if ← accept "\x7d" then
      match low with
      | some n => return (n, none)
      | none => failure
    else
      let high ← bound?
      require "\x7d"
      match low, high with
      | some n, some m => if n ≤ m then return (n, some m) else failure
      | _, _ => failure
  else
    require "\x7d"
    match low with
    | some n => return (n, some n)
    | none => failure

/-- The dot. Without Unicode it would match pieces of characters. -/
def dot : Reader Part := do
  let flags := (← get).flags
  if !flags.unicode then failure
  let set : CharSet :=
    if flags.dotAll then .anything
    else if flags.crlf then .compl (.union (.single '\n') (.single '\r'))
    else .compl (.single '\n')
  return .one set 0

/-- A character outside a class. -/
def character (c : Char) : Reader Part := do
  return .one (withCase (← get).flags (.single c)) 0

/-- Greedy unless a `?` follows or the flags swap the two. -/
def greed : Reader Bool := do
  let lazyMark ← accept "?"
  return lazyMark == (← get).flags.swapGreed

/-- What stands at one place of a pattern. -/
inductive Item where
  /-- The end of a group or of the text. -/
  | stop
  | bar
  /-- A group opens, with its flags set. -/
  | opening (remembered : Bool)
  /-- Flags change for what follows. -/
  | flags
  | part (p : Part)
  /-- The part before is repeated. -/
  | count (greedy : Bool) (low : Nat) (high : Option Nat)

/-- What follows an opening parenthesis. -/
def groupStart (fuel : Nat) : Reader Item := do
  skipSpaced
  if ← accept "?=" <||> accept "?!" <||> accept "?<=" <||> accept "?<!" then failure
  if ← accept "?P<" <||> accept "?<" then
    groupName
    return .opening true
  else if ← accept "?" then
    let c ← flagLetters fuel [] false false
    return if c == ')' then .flags else .opening false
  else return .opening true

/-- The start of a line or of the text, as the flags want it. -/
def startAssertion (flags : Flags) : Assertion :=
  if !flags.multiLine then .textStart
  else if flags.crlf then .lineStartCrlf
  else .lineStart

/-- The end of a line or of the text, as the flags want it. -/
def endAssertion (flags : Flags) : Assertion :=
  if !flags.multiLine then .textEnd
  else if flags.crlf then .lineEndCrlf
  else .lineEnd

/-- A part that `c` begins and that is neither a group nor a class. -/
def single (c : Char) : Reader Part := do
  let flags := (← get).flags
  match c with
  | '.' => dot
  | '^' => return .look (startAssertion flags)
  | '$' => return .look (endAssertion flags)
  | '\\' =>
    match ← escape with
    | .char c => character c
    | .set s => return .one s 0
    | .look a => return .look a
  | _ => character c

/-- What begins with `c`. -/
def itemFrom (fuel : Nat) (c : Char) : Reader Item := do
  match c with
  | '|' => return .bar
  | '(' => groupStart fuel
  | '[' =>
    let found ← classBody fuel Part.depthLimit
    return .part (.one found.set found.depth)
  | '*' => return .count (← greed) 0 none
  | '+' => return .count (← greed) 1 none
  | '?' => return .count (← greed) 0 (some 1)
  | '\x7b' =>
    let (low, high) ← bounds
    skipSpaced
    return .count (← greed) low high
  | _ => return .part (← single c)

/-- What stands at the next place. -/
def item (fuel : Nat) : Reader Item := do
  skipSpaced
  match ← peek? with
  | none | some ')' => return .stop
  | some c =>
    let _ ← next
    itemFrom fuel c

/-- The alternatives up to the end of the group or text. `branches` and `parts` hold what has been
read, last first; `canRepeat` tells whether the last part may be repeated, and `nesting` more groups
may open. -/
def alternatives : Nat → Nat → List Part → List Part → Bool → Reader Part
  | 0, _, _, _, _ => failure
  | fuel + 1, nesting, branches, parts, canRepeat => do
    let outer := (← get).flags
    match ← item fuel with
    | .stop => return .choice (Part.inOrder parts.reverse :: branches).reverse
    | .bar => alternatives fuel nesting (Part.inOrder parts.reverse :: branches) [] false
    | .flags => alternatives fuel nesting branches (.flags :: parts) false
    | .opening remembered =>
      match nesting with
      | 0 => failure
      | nesting + 1 =>
        let inner ← alternatives fuel nesting [] [] false
        require ")"
        modify fun s => { s with flags := outer }
        alternatives fuel (nesting + 1) branches (inner.group remembered :: parts) true
    | .part p => alternatives fuel nesting branches (p :: parts) true
    | .count greedy low high =>
      match parts with
      | last :: before =>
        if !canRepeat then failure
        alternatives fuel nesting branches (last.times greedy low high :: before) true
      | [] => failure

end PatternReader

/-- The pattern that a text writes; none if the text is no pattern or one past the limits. -/
def Pattern.read? (text : List Char) : Option Pattern := do
  let fuel := 2 * text.length + 2
  let (part, s) ←
    (PatternReader.alternatives fuel Part.depthLimit [] [] false).run { rest := text }
  if s.rest.isEmpty && part.isAllowed then some part.pattern else none

end LiterateSite
