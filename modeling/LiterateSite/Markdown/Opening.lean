import LiterateSite.Text.Number
import LiterateSite.Markdown.Label
import LiterateSite.Markdown.RawHtml

/-!
# Openings of blocks

What a line may begin with, after the marks of the containers that it goes on with.

* `rule?`, `headingLevel?`, `underline?`, `fence?`: rules, headings and fenced code.
* `ItemMark`, `item?`, `taskMark?`: the marks of items and tasks.
* `Alignment`, `alignments?`, `columnCount`: the line below the head of a table.
* `Scope.interrupts`: a line that ends the paragraph above it.
-/

namespace LiterateSite.Markdown

open Text

namespace Source

variable (s : Source)

/-- The end of a line of three or more of one mark with nothing but blank space between them. -/
def rule? (place : Nat) : Option Nat :=
  match s.get? place with
  | some c =>
    let stop := s.skipWhile (fun x => x == c || x == ' ' || x == '\t') place
    let marks := (s.slice place stop).countP (· == c)
    if (c == '*' || c == '-' || c == '_') && marks ≥ 3 then s.lineEnd? stop else none
  | none => none

/-- The level of a heading that begins with number signs. -/
def headingLevel? (place : Nat) : Option Nat :=
  let level := s.runLength '#' place
  let ended := (s.get? (place + level)).all isSpace
  if 1 ≤ level && level ≤ 6 && ended then some level else none

/-- The level of a heading that a line below its text makes, and the place after the line. -/
def underline? (place : Nat) : Option (Nat × Nat) :=
  match s.get? place with
  | some c =>
    if c == '=' || c == '-' then
      (s.blankRest? (s.skipWhile (· == c) place)).map fun after => (if c == '=' then 1 else 2, after)
    else none
  | none => none

/-- The mark and length of a fence that opens code. -/
def fence? (place : Nat) : Option (Char × Nat) :=
  match s.get? place with
  | some c =>
    let length := s.runLength c place
    let line := s.upTo (s.nextLine place)
    let marked := c == '\x60' && (line.find? (line.has · c) (place + length)).isSome
    if (c == '\x60' || c == '~') && length ≥ 3 && !marked then some (c, length) else none
  | none => none

/-- The place after a fence of one mark and at least one length that closes code; the end of the
text closes it, too. -/
def closingFence? (mark : Char) (length place : Nat) : Option Nat :=
  if place ≥ s.stop then some place
  else
    let marks := s.runLength mark place
    let stop := s.skipWhile (· == ' ') (place + marks)
    if marks ≥ length && s.atLineEnd stop then some stop else none

end Source

/-! ## Items -/

/-- The mark that begins an item: its kind, its number and its length. -/
structure ItemMark where
  kind : Char
  number : Nat
  length : Nat
  deriving DecidableEq, Repr, Inhabited

def ItemMark.isBullet (m : ItemMark) : Bool := m.kind == '-' || m.kind == '+' || m.kind == '*'

/-- The mark of an item at a place, which blank space or the end of the line follows. -/
def itemMark? (s : Source) (place : Nat) : Option ItemMark :=
  let mark : Option ItemMark :=
    match s.get? place with
    | some c =>
      if c == '-' || c == '+' || c == '*' then some ⟨c, 0, 1⟩
      else
        let stop := s.skipWhile Char.isDigit place
        let digits := s.slice place stop
        match s.get? stop with
        | some d =>
          if (d == '.' || d == ')') && 1 ≤ digits.length && digits.length ≤ 9 then
            some ⟨d, decimalNumber digits, digits.length + 1⟩
          else none
        | none => none
    | none => none
  mark.filter fun m =>
    let stop := place + m.length
    s.atLineEnd stop || s.has stop ' ' || s.has stop '\t'

/-- An item that begins at a margin, `outer` columns into its container: its mark, how far its
content is indented, and the margin of the content. A rule is no item. -/
def item? (s : Source) (outer : Nat) (m : Margin) : Option (ItemMark × Nat × Margin) :=
  match itemMark? s m.place with
  | none => none
  | some mark =>
    if mark.isBullet && (s.rule? m.place).isSome then none
    else
      let (_, inside) := (m.drop mark.length).take s 1
      let indent := outer + mark.length + 1
      if s.isBlankRest inside.place then some (mark, indent, inside)
      else
        let (extra, further) := inside.take s 4
        if extra < 4 then some (mark, indent + extra, further) else some (mark, indent, inside)

/-- The box of a task: whether it is checked, and the margin after it. -/
def taskMark? (s : Source) (m : Margin) : Option (Bool × Margin) :=
  let (_, m) := m.take s 3
  let marked :=
    match s.get? (m.place + 1) with
    | some c => if isLineBlank c then some false else if c == 'x' || c == 'X' then some true else none
    | none => none
  if s.has m.place '[' && s.has (m.place + 2) ']' && (s.get? (m.place + 3)).any isLineBlank then
    marked.map fun checked => (checked, m.drop 3)
  else none

/-- The label of a footnote definition, and the place after its colon. -/
def footnoteMark? (s : Source) (inTable : Bool) (place : Nat) : Option (List Char × Nat) :=
  if s.has place '[' && s.has (place + 1) '^' then
    match footnoteLabel? s inTable (place + 2) with
    | some (label, after) => if s.has after ':' then some (label, after + 1) else none
    | none => none
  else none

/-! ## Tables -/

/-- How the cells of a column are aligned. -/
inductive Alignment where
  | none
  | left
  | center
  | right
  deriving DecidableEq, Repr, Inhabited

/-- A line below the head of a table, as far as it has been read. -/
structure HeadLine where
  active : Alignment := .none
  /-- Nothing of the column has been read. -/
  fresh : Bool := true
  hyphen : Bool := false
  hyphenInColumn : Bool := false
  bar : Bool := false
  /-- The columns before, last first. -/
  columns : List Alignment := []

/-- The columns of the line once it has ended: there has to be a bar and a hyphen. -/
def HeadLine.finish? (h : HeadLine) : Option (List Alignment) :=
  let columns := if h.fresh then h.columns else h.active :: h.columns
  if h.bar && h.hyphen then some columns.reverse else none

/-- Read one more character; each column that a bar ends has to hold a hyphen. -/
def HeadLine.next? (h : HeadLine) (c : Char) : Option HeadLine :=
  match c with
  | ' ' => some h
  | ':' =>
    let active :=
      match h.fresh, h.active with
      | true, .none => Alignment.left
      | false, .left => .center
      | false, .none => .right
      | _, active => active
    some { h with active, fresh := false }
  | '-' => some { h with fresh := false, hyphen := true, hyphenInColumn := true }
  | '|' =>
    if h.hyphenInColumn then
      some { active := .none, fresh := true, hyphen := h.hyphen, bar := true,
             columns := h.active :: h.columns }
    else none
  | _ => none

/-- The alignments that a line below the head of a table gives its columns, and the place after
the line. -/
def alignments? (s : Source) (m : Margin) : Option (List Alignment × Nat) :=
  let (spaces, m) := (Margin.start m.place).take s 4
  if spaces > 3 || m.place ≥ s.stop then none
  else
    let bar := s.has m.place '|'
    go (s.stop + 1) (if bar then m.place + 1 else m.place) { bar }
where
  go : Nat → Nat → HeadLine → Option (List Alignment × Nat)
    | 0, _, _ => none
    | fuel + 1, place, h =>
      match s.lineEnd? place, s.get? place with
      | some after, _ => h.finish?.map fun columns => (columns, after)
      | none, some c => (h.next? c).bind (go fuel (place + 1))
      | none, none => none

/-- The number of cells of a line that begins at `start` and has `bars` bars, the last one before
`last`: bars at both ends of the line are not between cells. -/
def columnCount (s : Source) (start bars last : Nat) : Nat :=
  let bars := if s.has (s.skipBlanks start) '|' then bars - 1 else bars
  if s.isBlankRest last then bars else bars + 1

/-- The bars of a line that no backslash is before: their number, the place after the last one,
and the place after the line if it ends before the text. -/
def bars (s : Source) : Nat → Nat → Bool → Nat → Nat → Nat × Nat × Option Nat
  | 0, _, _, count, last => (count, last, none)
  | fuel + 1, place, escaped, count, last =>
    match s.get? place with
    | none => (count, last, none)
    | some c =>
      if c == '\n' || c == '\r' then (count, last, s.lineEnd? place)
      else if c == '|' && !escaped then bars s fuel (place + 1) false (count + 1) (place + 1)
      else bars s fuel (place + 1) (c == '\\') count last

/-! ## Ends of paragraphs -/

namespace Scope

/-- The head of a table whose line below begins at a place: the alignments of its columns, and the
place after that line. It has to be within the open containers. -/
def tableHead? (scope : Scope) (place : Nat) : Option (List Alignment × Nat) :=
  (scope.within? place).bind (alignments? scope.source)

/-- The line ends a paragraph above it, and begins no table. A line outside the containers of the
paragraph, or below a row of a table, may begin any item; another one may not begin an empty item
nor a list with a number other than one. -/
def interruptsPlainly (scope : Scope) (within : Bool) (place : Nat) : Bool :=
  let s := scope.source
  s.atLineEnd place || (s.rule? place).isSome || (s.headingLevel? place).isSome
    || (s.fence? place).isSome || s.has place '>'
    || (match itemMark? s place with
      | none => false
      | some mark =>
        let empty := ((s.blankRest? (place + mark.length)).bind s.blankRest?).isSome
        !within || scope.inTable || ((mark.isBullet || mark.number == 1) && !empty))
    || (s.has place '<' && (RawHtml.strongBlock? s (place + 1)).isSome)
    || (footnoteMark? s scope.inTable place).isSome

/-- The line begins a table with a bar. -/
def opensTable (scope : Scope) (place : Nat) : Bool :=
  let s := scope.source
  s.has place '|'
    && (match bars s (s.stop - place + 1) place false 0 place with
      | (count, last, some next) =>
        match scope.tableHead? next with
        | some (columns, _) => columns.length == columnCount s place count last
        | none => false
      | (_, _, none) => false)

/-- The line ends a paragraph above it. -/
def interrupts (scope : Scope) (within : Bool) (place : Nat) : Bool :=
  scope.interruptsPlainly within place || scope.opensTable place

/-- The place where text that goes on like a paragraph is taken up after a line end, unless a new
block begins there. -/
def lazyLine? (scope : Scope) (underlineWithin : Bool) (place : Nat) : Option Margin :=
  let (within, m) := scope.line place
  let (spaces, m) := m.take scope.source 4
  if spaces < 4 && (scope.interrupts within m.place
      || ((within || !underlineWithin) && (scope.source.underline? m.place).isSome)) then none
  else some m

end Scope

end LiterateSite.Markdown
