import LiterateSite.Text.Category
import LiterateSite.Markdown.Entity
import LiterateSite.Markdown.Opening

/-!
# Passages

The text of a paragraph, a heading or a cell, divided into pieces. What the pieces mean is decided
once all definitions are known.

* `Piece`: a span of text, or a character that may be markup.
* `flank`: whether a run of delimiters can open and close emphasis.
* `Scope.readLine`: the pieces of a line, and how it ends.
* `Passage`: pieces with the text they stand in.
-/

namespace LiterateSite.Markdown

open Text

/-- What a piece is, or may turn out to be. -/
inductive PieceKind where
  | text
  /-- Characters that a reference stands for. -/
  | literal (chars : List Char)
  | task (checked : Bool)
  | softBreak
  | hardBreak (backslash : Bool)
  /-- Delimiters of emphasis. -/
  | run (delimiter : Char) (length : Nat) (canOpen canClose : Bool)
  /-- Backticks; a backslash escapes the first one. -/
  | ticks (count : Nat) (escaped : Bool)
  /-- The `<` of a link or of raw HTML. -/
  | angle
  /-- The bracket that opens a link, or an image. -/
  | opening (image : Bool)
  | closing
  deriving DecidableEq, Repr, Inhabited

/-- A part of a text. -/
structure Piece where
  start : Nat
  stop : Nat
  kind : PieceKind
  deriving DecidableEq, Repr, Inhabited

/-- The meaning of a piece depends on other pieces. -/
def Piece.isOpen (p : Piece) : Bool :=
  match p.kind with
  | .run .. | .ticks .. | .angle | .opening _ | .closing => true
  | _ => false

/-- Add a span of text to pieces, last first. It continues a span that ends where it begins. -/
def addText (pieces : List Piece) (start stop : Nat) : List Piece :=
  if stop ≤ start then pieces
  else
    match pieces with
    | ⟨start', stop', .text⟩ :: before =>
      if stop' == start then ⟨start', stop, .text⟩ :: before
      else ⟨start, stop, .text⟩ :: pieces
    | _ => ⟨start, stop, .text⟩ :: pieces

/-- Whether a run of delimiters can open and close, by the characters around it; there is none
before it at the start of a line. A bar after it ends a cell. -/
def flank (inCell : Bool) (delimiter : Char) (length : Nat) (before after : Option Char) :
    Bool × Bool :=
  let bar := inCell && after == some '|'
  let intraword := delimiter == '*' || (delimiter == '~' && length > 1)
  let canOpen := after.any (!isBlank ·) && (before.isNone
    || (!bar && ((intraword && !after.any isPunctuation) || (delimiter == '~' && length > 1)
      || before.any isBlank || before.any isPunctuation)))
  let canClose := before.any (!isBlank ·) && (after.isNone || bar
    || (intraword && !before.any isPunctuation) || (delimiter == '~' && before == some '~')
    || after.any isBlank || after.any isPunctuation)
  (canOpen, canClose)

/-- Where a line stands. -/
inductive LineRole where
  | inner
  /-- The first line of a paragraph, which may be the head of a table. -/
  | first
  /-- A cell, which a bar ends. -/
  | cell
  deriving DecidableEq, Repr

/-- How a line ends. -/
inductive LineEnd where
  | plain
  | break (piece : Piece)
  /-- The line is the head of a table; the rows begin at a place. -/
  | table (columns : List Alignment) (body : Nat)
  deriving DecidableEq, Repr, Inhabited

/-- A line that has been read: the pieces, last first, the place where the reading ended, and how
the line ends. -/
structure LineRead where
  pieces : List Piece
  place : Nat
  ending : LineEnd
  deriving Repr, Inhabited

namespace Scope

/-- The end of a line at `place`, whose text since the last piece begins at `begin`. The line may
be the head of a table with `bars` bars, the last one before `last`. -/
def endLine (scope : Scope) (head : Bool) (start place begin bars last after : Nat)
    (pieces : List Piece) : LineRead :=
  let s := scope.source
  let backslashes := place - s.skipBack (· == '\\') place
  if backslashes % 2 == 1 && after < s.stop then
    ⟨addText pieces begin (place - 1), after, .break ⟨place - 1, after, .hardBreak true⟩⟩
  else
    let table :=
      if head && bars > 0 then
        (scope.tableHead? after).filter fun (columns, _) =>
          columns.length == columnCount s start bars last
      else none
    match table with
    | some (columns, body) => ⟨pieces, body, .table columns body⟩
    | none =>
      let stop := s.skipBack isLineBlank place
      let kind := if stop + 2 ≤ place then PieceKind.hardBreak false else .softBreak
      ⟨addText pieces begin stop, after, .break ⟨stop, after, kind⟩⟩

/-- Read a line that begins at `start` from a place on. The text since the last piece begins at
`begin`; `bars` bars have been read, the last one before `last`. -/
def readFrom (scope : Scope) (role : LineRole) (start : Nat) :
    Nat → Nat → Nat → Nat → Nat → List Piece → LineRead
  | 0, place, _, _, _, pieces => ⟨pieces, place, .plain⟩
  | fuel + 1, place, begin, bars, last, pieces =>
    let s := scope.source
    let closed := fun (_ : Unit) =>
      let stop := s.skipBack isLineBlank place
      (⟨addText pieces begin stop, place, .plain⟩ : LineRead)
    -- go on after `n` characters that belong to the text
    let on := fun (n : Nat) => readFrom scope role start fuel (place + n) begin bars last pieces
    -- a piece of `n` characters
    let piece := fun (n : Nat) (kind : PieceKind) =>
      readFrom scope role start fuel (place + n) (place + n) bars last
        (⟨place, place + n, kind⟩ :: addText pieces begin place)
    match s.get? place with
    | none => closed ()
    | some c =>
      match c with
      | '\n' | '\r' =>
        if role == .cell then closed ()
        else
          scope.endLine (role == .first) start place begin bars last
            ((s.lineEnd? place).getD (place + 1)) pieces
      | '\\' =>
        match s.get? (place + 1) with
        | some '\x60' =>
          let count := s.runLength '\x60' (place + 1)
          readFrom scope role start fuel (place + 1 + count) (place + 1 + count) bars last
            (⟨place + 1, place + 1 + count, .ticks count true⟩ :: addText pieces begin place)
        | some p =>
          if !isAsciiPunctuation p then on 1
          else
            -- a bar in a cell loses the backslashes before it
            let escapes := if role == .cell && p == '\\' && s.has (place + 2) '|' then 2 else 1
            readFrom scope role start fuel (place + escapes + 1) (place + escapes) bars last
              (addText pieces begin place)
        | none => on 1
      | '\x60' =>
        let count := s.runLength '\x60' place
        piece count (.ticks count false)
      | '<' => if s.has (place + 1) '\\' then on 1 else piece 1 .angle
      | '!' => if s.has (place + 1) '[' then piece 2 (.opening true) else on 1
      | '[' => piece 1 (.opening false)
      | ']' => piece 1 .closing
      | '&' =>
        match Entity.at? s place with
        | some (chars, after) => piece (after - place) (.literal chars)
        | none => on 1
      | '|' =>
        if place > 0 && s.has (place - 1) '\\' then on 1
        else if role == .cell then closed ()
        else readFrom scope role start fuel (place + 1) begin (bars + 1) (place + 1) pieces
      | _ =>
        if c == '*' || c == '_' || c == '~' then
          let count := s.runLength c place
          let before := if place == start then none else s.get? (place - 1)
          let (canOpen, canClose) := flank (role == .cell) c count before (s.get? (place + count))
          if (canOpen || canClose) && (c != '~' || count ≤ 2) then
            piece count (.run c count canOpen canClose)
          else on count
        else on 1

/-- Read a line from a place on, after pieces of lines before it, last first. -/
def readLine (scope : Scope) (role : LineRole) (place : Nat) (pieces : List Piece) : LineRead :=
  readFrom scope role place (scope.source.stop - place + 1) place place 0 place pieces

end Scope

/-- The pieces of a text, with the text and the containers it stands in. -/
structure Passage where
  scope : Scope
  pieces : List Piece
  deriving Repr, Inhabited

/-- A passage without text. -/
def Passage.empty : Passage := ⟨⟨.ofList [], [], false⟩, []⟩

/-- The passage of pieces, last first, in a block that ends at a place. -/
def Passage.ofPieces (scope : Scope) (stop : Nat) (pieces : List Piece) : Passage :=
  { scope := { scope with source := scope.source.upTo stop }, pieces := pieces.reverse }

end LiterateSite.Markdown
