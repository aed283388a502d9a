import LiterateSite.Markdown.Emphasis
import LiterateSite.Markdown.Passage

/-!
# Inline content

What the pieces of a passage mean.

* `autolink?`: an address between `<` and `>`.
* `codeContent`: what a code span holds.
* `inlineTarget?`: the target of a link that is written after its text.
* `Passage.content`: the inline content of a passage.
-/

namespace LiterateSite.Markdown

open Text

/-! ## Recognisers -/

/-- A web address between `<` and `>`, from the place after `<` on: the place after it. -/
def webAddress? (s : Source) (place : Nat) : Option Nat :=
  let stop := s.skipWhile (fun c => c.isAlphanum || c == '.' || c == '-' || c == '+') place
  let length := stop - place
  if !(s.get? place).any Char.isAlpha || !s.has stop ':' || length < 2 || length > 32 then none
  else
    let close := s.skipWhile (fun c => !(c.toNat ≤ 0x20 || c == '<' || c == '>')) (stop + 1)
    if s.has close '>' then some (close + 1) else none

/-- A character of the part of a mail address before `@`. -/
def isMailbox (c : Char) : Bool := c.isAlphanum || ".!#$%&'*+/=?^_\x60\x7b|\x7d~-".toList.contains c

/-- The end of a host name: labels of letters, digits and inner hyphens. -/
def hostEnd? (s : Source) : Nat → Nat → Option Nat
  | 0, _ => none
  | fuel + 1, place =>
    let stop := s.skipWhile (fun c => c.isAlphanum || c == '-') place
    if stop == place || stop - place > 63 || s.has place '-' || s.has (stop - 1) '-' then none
    else if s.has stop '.' then hostEnd? s fuel (stop + 1)
    else some stop

/-- A mail address between `<` and `>`, from the place after `<` on: the place after it. -/
def mailAddress? (s : Source) (place : Nat) : Option Nat :=
  let at_ := s.skipWhile isMailbox place
  if at_ == place || !s.has at_ '@' then none
  else
    match hostEnd? s (s.stop + 1) (at_ + 1) with
    | some stop => if s.has stop '>' then some (stop + 1) else none
    | none => none

/-- A link that an address between `<` and `>` makes, and the place after it. -/
def autolink? (s : Source) (place : Nat) : Option (Inline × Nat) :=
  match webAddress? s place with
  | some after =>
    let address := s.slice place (after - 1)
    some (.link address [] [.text address], after)
  | none =>
    (mailAddress? s place).map fun after =>
      let address := s.slice place (after - 1)
      (.link ("mailto:".toList ++ address) [] [.text address], after)

/-- A code span's text from a place on: a line end reads as a space, and the marks of containers
after it are no part of the text. In a table, a bar has a backslash before it. -/
def codeText (scope : Scope) : Nat → Nat → List Char
  | 0, _ => []
  | fuel + 1, place =>
    let s := scope.source
    match s.get? place with
    | none => []
    | some c =>
      if c == '\n' || c == '\r' then ' ' :: codeText scope fuel (scope.afterMarks (place + 1))
      else if c == '\\' && scope.inTable && s.has (place + 1) '|' then
        '|' :: codeText scope fuel (place + 2)
      else c :: codeText scope fuel (place + 1)

/-- The content of a code span between two places: one space at both ends is dropped if there is
more than spaces. -/
def codeContent (scope : Scope) (start stop : Nat) : List Char :=
  let chars := codeText { scope with source := scope.source.upTo stop } (stop - start + 1) start
  if chars.all (· == ' ') || chars.head? != some ' ' || chars.getLast? != some ' ' then chars
  else (chars.drop 1).dropLast

/-- The pieces from a place on. -/
def resume (place : Nat) : List Piece → List Piece
  | [] => []
  | p :: rest =>
    if p.stop ≤ place then resume place rest else { p with start := max p.start place } :: rest

/-- The backticks that close a code span, and the pieces after them. -/
def closingTicks? (n : Nat) : List Piece → Option (Piece × List Piece)
  | [] => none
  | p :: rest =>
    match p.kind with
    | .ticks count _ => if count == n then some (p, rest) else closingTicks? n rest
    | _ => closingTicks? n rest

/-! ## Targets after the text of a link -/

/-- Blanks with at most one line end among them. -/
def skipSeparator (scope : Scope) (place : Nat) : Nat :=
  let s := scope.source
  let place := s.skipBlanks place
  match s.lineEnd? place with
  | some after => s.skipBlanks (scope.afterMarks after)
  | none => place

/-- A title up to the character `close`, resolved, and the place after it. A line of it goes on
where the next of the `pieces` begins. -/
def titleFrom? (scope : Scope) (opening close : Char) (pieces : List Piece) :
    Nat → Nat → List Char → Option (List Char × Nat)
  | 0, _, _ => none
  | fuel + 1, place, acc =>
    let s := scope.source
    let go := titleFrom? scope opening close pieces fuel
    match s.get? place with
    | none => none
    | some c =>
      let next := s.get? (place + 1)
      let line :=
        if c == '\n' || c == '\r' then
          (pieces.find? (place + 1 < ·.stop)).filter (place < ·.start)
        else none
      if c == close then some (acc.reverse, place + 1)
      else if c == opening then none
      else
        match line with
        | some piece => go piece.start ('\n' :: acc)
        | none =>
          match Entity.at? s place with
          | some (chars, after) => go after (chars.reverseAux acc)
          | none =>
            if scope.inTable && s.startsWith place ['\\', '\\', '|'] then
              match s.get? (place + 3) with
              | some p =>
                if isAsciiPunctuation p then go (place + 4) (p :: acc) else go (place + 3) ('|' :: acc)
              | none => go (place + 3) ('|' :: acc)
            else if c == '\\' && next.any isAsciiPunctuation then
              go (place + 2) (next.getD ' ' :: acc)
            else go (place + 1) (c :: acc)

/-- A title in quotes or parentheses, resolved, and the place after it. -/
def title? (scope : Scope) (pieces : List Piece) (place : Nat) : Option (List Char × Nat) := do
  let opening ← scope.source.get? place
  let close ← titleClose? opening
  titleFrom? scope opening close pieces (scope.source.stop - place + 1) (place + 1) []

/-- The target in parentheses after the text of a link, before `pieces`, and the place after it. -/
def inlineTarget? (scope : Scope) (pieces : List Piece) (place : Nat) : Option (Target × Nat) :=
  let s := scope.source
  if !s.has place '(' then none
  else do
    let (written, place) ← destination? s (skipSeparator scope (place + 1))
    let place := skipSeparator scope place
    let (title, place) :=
      match title? scope pieces place with
      | some (title, after) => (title, skipSeparator scope after)
      | none => ([], place)
    if s.has place ')' then
      some ({ destination := unescape scope.inTable written, title }, place + 1)
    else none

/-! ## Links -/

/-- A bracket that may open a link: where it stands among the content and in the text. A link that
follows takes its power away from the brackets before it. -/
structure Bracket where
  index : Nat
  place : Nat
  image : Bool
  active : Bool := true
  deriving DecidableEq, Repr, Inhabited

/-- The content so far, and the brackets that may open links, the last one first. -/
structure Content where
  done : Array Unresolved := #[]
  brackets : List Bracket := []
  deriving Repr, Inhabited

namespace Content

def push (c : Content) (x : Inline) : Content := { c with done := c.done.push (.node x) }

def pushText (c : Content) (chars : List Char) : Content := c.push (.text chars)

/-- The content after a bracket becomes a link or an image. -/
def link (c : Content) (bracket : Bracket) (target : Target) : Content :=
  let inside := (c.done.extract (bracket.index + 1) c.done.size).toList
  let content := resolve (inside.any fun
    | .run _ => true
    | _ => false) inside
  let node :=
    if bracket.image then Inline.image target.destination target.title content
    else .link target.destination target.title content
  let brackets :=
    if bracket.image then c.brackets
    else c.brackets.map fun b => if b.image then b else { b with active := false }
  { done := (c.done.take bracket.index).push (.node node), brackets }

/-- A footnote is mentioned in place of a bracket and what follows it. -/
def mention (c : Content) (bracket : Bracket) (label : List Char) : Content :=
  let done := c.done.take bracket.index
  let done := if bracket.image then done.push (.node (.text ['!'])) else done
  { done := done.push (.node (.footnote label)) }

/-- What a closing bracket makes of the content, with the pieces after it that are left: a link to
the target in parentheses after it, else to the definition of the label in brackets after it, or of
its own text. -/
def closeBracket (c : Content) (refs : References) (scope : Scope) (closing : Piece)
    (rest : List Piece) : Content × List Piece :=
  let s := scope.source
  let plain := fun (c : Content) => (c.pushText (s.slice closing.start closing.stop), rest)
  match c.brackets with
  | [] => plain c
  | bracket :: outer =>
    let c := { c with brackets := outer }
    if !bracket.active then plain c
    else
      match inlineTarget? scope rest closing.stop with
      | some (target, after) => (c.link bracket target, resume after rest)
      | none =>
        let own : Option Label :=
          match Label.at? { scope with source := s.upTo closing.stop } bracket.place with
          | some (label, after) => if after == closing.stop then some label else none
          | none => none
        let byLabel := fun (label : Option Label) (restOfLink : List Piece) =>
          match label with
          | some (.link label) =>
            match refs.target? label with
            | some target => (c.link bracket target, restOfLink)
            | none => plain c
          | some (.footnote label) =>
            if refs.hasFootnote label then (c.mention bracket label, rest) else plain c
          | none => plain c
        match rest.head? with
        | none => byLabel own rest
        | some next =>
          if s.startsWith next.start ['[', ']'] then byLabel own (rest.drop 2)
          else
            match Label.at? scope next.start with
            | some (.link label, after) =>
              match resume (after - 1) rest with
              | _ :: restOfLink => byLabel (some (.link label)) restOfLink
              | [] => plain c
            | _ => byLabel own rest

end Content

/-! ## Reading -/

/-- Read pieces into content; `fuel` is more than their number. -/
def readPieces (refs : References) (scope : Scope) : Nat → Content → List Piece → Content
  | 0, c, _ => c
  | _ + 1, c, [] => c
  | fuel + 1, c, p :: rest =>
    let s := scope.source
    let go := readPieces refs scope fuel
    let plain := fun (_ : Unit) => go (c.pushText (s.slice p.start p.stop)) rest
    match p.kind with
    | .text => plain ()
    | .literal chars => go (c.pushText chars) rest
    | .task checked => go (c.push (.task checked)) rest
    | .softBreak => go (c.push .softBreak) rest
    | .hardBreak false => go (c.push .hardBreak) rest
    | .hardBreak true => go { c with done := c.done.push .backslashBreak } rest
    | .run delimiter length canOpen canClose =>
      let tail := s.slice (p.start + length) p.stop
      let run : Run := { delimiter, count := length, length, canOpen, canClose, tail }
      go { c with done := c.done.push (.run run) } rest
    | .ticks count escaped =>
      let n := if escaped then count - 1 else count
      match if n == 0 then none else closingTicks? n rest with
      | some (closing, after) =>
        let c := if escaped then c.pushText ['\x60'] else c
        go (c.push (.code (codeContent scope (p.start + count) closing.start))) after
      | none => plain ()
    | .angle =>
      match rest with
      | [] => plain ()
      | next :: _ =>
        match autolink? s next.start with
        | some (link, after) => go (c.push link) (resume after rest)
        | none =>
          match RawHtml.inline? s scope.afterMarks next.start with
          | some reach => go (c.push (.html (reach.content s p.start))) (resume reach.place rest)
          | none => plain ()
    | .opening image =>
      let bracket : Bracket :=
        { index := c.done.size, place := if image then p.start + 1 else p.start, image }
      go { c.pushText (s.slice p.start p.stop) with brackets := bracket :: c.brackets } rest
    | .closing =>
      let (c, rest) := c.closeBracket refs scope p rest
      go c rest

/-- The inline content of a passage. -/
def Passage.content (refs : References) (p : Passage) : List Inline :=
  let c := readPieces refs p.scope (p.pieces.length + 1) {} p.pieces
  resolve (p.pieces.any Piece.isOpen) c.done.toList

end LiterateSite.Markdown
