import LiterateSite.Markdown.Passage
import LiterateSite.Markdown.Target

/-!
# Block structure

The blocks of a Markdown text: paragraphs, headings, code, HTML, tables, and the containers that
hold blocks (quotes, lists, footnotes).

* `Block`: the blocks. Text that has inline content is kept as a passage, since its links may refer
  to definitions further below.
* `Reading`: the blocks read so far and the containers that are open.
* `Scope.definition?`: a link definition.
* `Document.read`: the blocks and the definitions of a text.
-/

namespace LiterateSite.Markdown

open Text

/-- Blocks. -/
inductive Block where
  | paragraph (text : Passage)
  | heading (level : Nat) (text : Passage)
  /-- Code; a fenced one has an info text. -/
  | code (info : Option (List Char)) (content : List Char)
  | html (content : List Char)
  | rule
  /-- A table, whose first row is its head. -/
  | table (alignments : List Alignment) (rows : List (List Passage))
  /-- The mark of a task without text. -/
  | task (checked : Bool)
  | quote (content : List Block)
  /-- A list, with its first number if it is ordered. -/
  | list (start : Option Nat) (tight : Bool) (items : List Block)
  | item (content : List Block)
  | footnote (label : List Char) (content : List Block)
  deriving Repr, Inhabited

/-! ## Leaves -/

/-- A line of code or HTML, with the columns left of a tab as spaces. The character two before its
end is left out if it is `\r`. -/
def verbatimLine (s : Source) (pending start stop : Nat) : List Char :=
  List.replicate pending ' '
    ++ (if s.has (stop - 2) '\r' then s.slice start (stop - 2) ++ s.slice (stop - 1) stop
      else s.slice start stop)

namespace Scope

/-- The lines of indented code from a place on: the code read so far, last character first, and
blank lines that are code only if code follows, likewise. Answers the code, the place after it, and
whether blank lines are left over. -/
def indentedCode (scope : Scope) :
    Nat → Nat → Nat → Bool → List Char → List Char → List Char × Nat × Bool
  | 0, place, _, blank, done, _ => (done.reverse, place, blank)
  | fuel + 1, place, pending, blank, done, waiting =>
    let s := scope.source
    let next := s.nextLine place
    let waiting := (verbatimLine s pending place next).reverseAux waiting
    let (done, waiting) := if blank then (done, waiting) else (waiting ++ done, [])
    match (scope.within? next).bind (·.indented? s 4) with
    | some m =>
      if m.place == s.stop then (done.reverse, next, blank)
      else indentedCode scope fuel m.place m.pending (s.isBlankRest m.place) done waiting
    | none => (done.reverse, next, blank)

/-- The lines of fenced code from a place on, up to its end: the code, and the place after it. -/
def fencedCode (scope : Scope) (mark : Char) (length indent : Nat) :
    Nat → Nat → List Char → List Char × Nat
  | 0, place, done => (done.reverse, place)
  | fuel + 1, place, done =>
    let s := scope.source
    match scope.within? place with
    | none => (done.reverse, place)
    | some m =>
      let (_, m) := m.take s indent
      let (spaces, inner) := m.take s (4 - indent)
      match if spaces < 4 - indent then s.closingFence? mark length inner.place else none with
      | some stop => (done.reverse, stop)
      | none =>
        let next := s.nextLine m.place
        fencedCode scope mark length indent fuel next
          ((verbatimLine s m.pending m.place next).reverseAux done)

/-- The lines of a block of HTML from a place on, and the place after them. -/
def htmlLines (scope : Scope) (kind : RawHtml.Block) :
    Nat → Nat → Nat → List Char → List Char × Nat
  | 0, place, _, done => (done.reverse, place)
  | fuel + 1, place, pending, done =>
    let s := scope.source
    let next := s.nextLine place
    let done := (verbatimLine s pending place next).reverseAux done
    match scope.within? next with
    | none => (done.reverse, next)
    | some m =>
      let ended :=
        match kind with
        | .until closing => (RawHtml.through? (s.upTo next) closing place).isSome
        | .paragraph => s.isBlankRest m.place
      if ended || m.place == s.stop then (done.reverse, next)
      else htmlLines scope kind fuel m.place m.pending done

/-- The cells of a row that begins at a place, and the place after the row. -/
def cells (scope : Scope) : Nat → Nat → List Passage × Nat
  | 0, place => ([], place)
  | fuel + 1, place =>
    let s := scope.source
    let start := s.skipBlanks (if s.has place '|' then place + 1 else place)
    match s.lineEnd? start with
    | some after => ([], after)
    | none =>
      let line := scope.readLine .cell start []
      let (rest, after) := cells scope fuel line.place
      (.ofPieces scope line.place line.pieces :: rest, after)

/-- The cells of a row with `n` columns, and the place after the row. -/
def row (scope : Scope) (n place : Nat) : List Passage × Nat :=
  let (cells, after) := scope.cells (scope.source.stop + 1) place
  (cells.take n ++ List.replicate (n - cells.length) .empty, after)

/-- The rows of a table after its head, and the place after them. -/
def rows (scope : Scope) (n : Nat) : Nat → Nat → List (List Passage) × Nat
  | 0, place => ([], place)
  | fuel + 1, place =>
    match scope.within? place with
    | none => ([], place)
    | some m =>
      let s := scope.source
      let start := (m.skip s).place
      let first := s.skipBlanks (if s.has start '|' then start + 1 else start)
      if scope.interruptsPlainly true start || s.atLineEnd first then ([], place)
      else
        let (cells, next) := scope.row n start
        let (rest, after) := rows scope n fuel next
        (cells :: rest, after)

/-- What lines of text turn out to be. -/
inductive TextKind where
  | paragraph
  | heading (level : Nat)
  | table (alignments : List Alignment) (body : Nat)
  deriving DecidableEq, Repr

/-- The lines of a paragraph from a place on, after pieces of lines before, last first. Answers the
pieces, the place after the lines, and what they are. -/
def paragraphLines (scope : Scope) :
    Nat → LineRole → Nat → List Piece → List Piece × Nat × TextKind
  | 0, _, place, pieces => (pieces, place, .paragraph)
  | fuel + 1, role, place, pieces =>
    let s := scope.source
    let line := scope.readLine role place pieces
    let next := line.place
    let (within, m) := scope.line next
    let (spaces, inner) := m.take s 4
    -- a backslash before the last line end is text
    let closed :=
      match line.ending with
      | .break ⟨start, _, .hardBreak true⟩ => addText line.pieces start (start + 1)
      | _ => line.pieces
    match line.ending with
    | .table alignments body => (line.pieces, next, .table alignments body)
    | ending =>
      match if spaces < 4 && within then s.underline? inner.place else none with
      | some (level, after) => (closed, after, .heading level)
      | none =>
        let start := (inner.skip s).place
        if (spaces < 4 && scope.interrupts within inner.place) || s.atLineEnd start then
          (closed, next, .paragraph)
        else
          let pieces :=
            match ending with
            | .break piece => piece :: line.pieces
            | _ => line.pieces
          paragraphLines scope fuel .inner start pieces

/-- A heading that begins with number signs, the last of which end at a place, and the place after
it. Number signs at its end are no part of it if a space is before them. -/
def heading (scope : Scope) (place : Nat) : Passage × Nat :=
  let s := scope.source
  match s.lineEnd? place with
  | some after => (.empty, after)
  | none =>
    let start := s.skipBlanks place
    let line := scope.readLine .inner start []
    let pieces :=
      match line.ending with
      | .break ⟨start, _, .hardBreak true⟩ => addText line.pieces start (start + 1)
      | _ => line.pieces
    let text := s.slice start line.place
    let trimmed := dropEndWhile (fun c => c == ' ' || c == '\n' || c == '\r') text
    let bare := dropEndWhile (· == '#') trimmed
    let spaced := dropEndWhile (· == ' ') bare
    let kept :=
      if bare.isEmpty then [] else if spaced.length < bare.length then spaced else trimmed
    let pieces :=
      match pieces with
      | [] => []
      | p :: before => { p with stop := start + kept.length } :: before
    (.ofPieces scope line.place pieces, line.place)

/-! ## Definitions -/

/-- Blanks before a part of a definition, with at most one line end among them: the number of line
ends, and the place after. -/
def definitionSpace? (scope : Scope) : Nat → Nat → Nat → Option (Nat × Nat)
  | 0, _, _ => none
  | fuel + 1, ends, place =>
    let s := scope.source
    let place := s.skipBlanks place
    match s.lineEnd? place with
    | none => some (ends, place)
    | some after =>
      if ends > 0 then none
      else (scope.lazyLine? false after).bind fun m => definitionSpace? scope fuel (ends + 1) m.place

/-- The title of a definition up to the character `close`, as it is written, and the place after
it. -/
def definitionTitle? (scope : Scope) (close : Char) :
    Nat → Nat → List Char → Option (List Char × Nat)
  | 0, _, _ => none
  | fuel + 1, place, acc =>
    let s := scope.source
    match s.get? place with
    | none => none
    | some c =>
      if c == '(' && close == ')' then none
      else if c == '\n' || c == '\r' then
        match scope.lazyLine? false ((s.lineEnd? place).getD place) with
        | none => none
        | some m =>
          let start := (m.skip s).place
          if s.isBlankRest start then none
          else definitionTitle? scope close fuel start ('\n' :: acc)
      else if c == '\\' then
        match s.get? (place + 1) with
        | some d =>
          if d == '\n' || d == '\r' then definitionTitle? scope close fuel (place + 1) (c :: acc)
          else definitionTitle? scope close fuel (place + 2) (d :: c :: acc)
        | none => none
      else if c == close then some (acc.reverse, place + 1)
      else definitionTitle? scope close fuel (place + 1) (c :: acc)

/-- A link definition at a place: its label, its target and the place after it. A title has to end
its line; one that fails on a line of its own is no part of the definition. -/
def definition? (scope : Scope) (place : Nat) : Option (List Char × Target × Nat) := do
  let s := scope.source
  if !s.has place '[' then none
  let (label, place) ←
    labelBody? s scope.inTable (fun after => (scope.lazyLine? true after).map (·.place)) (place + 1)
  if !s.has place ':' then none
  let (_, place) ← scope.definitionSpace? 3 0 (place + 1)
  let (written, stop) ← destination? s place
  if stop == place then none
  let destination := unescape scope.inTable written
  let untitled := (label, (⟨destination, []⟩ : Target), stop)
  match scope.definitionSpace? 3 0 stop with
  | none => some untitled
  | some (ends, place) =>
    if place == stop && ends == 0 && stop != s.stop then none
    else
      let titled := do
        let close ← (s.get? place).bind titleClose?
        let (title, after) ← scope.definitionTitle? close (s.stop - place + 1) (place + 1) []
        if s.isBlankRest after then
          some (label, (⟨destination, unescape scope.inTable title⟩ : Target), after)
        else none
      match titled with
      | some found => some found
      | none => if ends > 0 then some untitled else none

end Scope

/-! ## Open blocks -/

/-- An open container with the blocks in it, last first. -/
structure Frame where
  container : Container
  blocks : List Block := []
  deriving Repr, Inhabited

/-- What has been read: the open containers, innermost first, and the blocks outside them. -/
structure Reading where
  frames : List Frame := []
  blocks : List Block := []
  /-- The line before was blank. -/
  afterBlank : Bool := false
  /-- The innermost item began with a blank line. -/
  emptyItem : Bool := false
  /-- The mark of a task that waits for its paragraph. -/
  task : Option Bool := none
  references : References := {}
  deriving Repr, Inhabited

/-- The block of a container that is closed. -/
def Frame.close (f : Frame) : Block :=
  let content := f.blocks.reverse
  match f.container with
  | .quote => .quote content
  | .list kind number tight =>
    .list (if kind == '.' || kind == ')' then some number else none) tight content
  | .item _ => .item content
  | .footnote label => .footnote label content

namespace Reading

/-- Add a block to the innermost container. -/
def add (r : Reading) (b : Block) : Reading :=
  match r.frames with
  | [] => { r with blocks := b :: r.blocks }
  | f :: outer => { r with frames := { f with blocks := b :: f.blocks } :: outer }

def openFrame (r : Reading) (c : Container) : Reading := { r with frames := { container := c } :: r.frames }

/-- Close the innermost container. -/
def pop (r : Reading) : Reading :=
  match r.frames with
  | [] => r
  | f :: outer =>
    let emptyItem :=
      match f.container with
      | .list _ _ true => false
      | _ => r.emptyItem
    { r with frames := outer, emptyItem }.add f.close

/-- Close all but the `n` outermost containers. -/
def popTo (r : Reading) (n : Nat) : Reading :=
  Nat.rec (motive := fun _ => Reading) r (fun _ r => r.pop) (r.frames.length - n)

/-- The text with the containers that are open. -/
def scope (r : Reading) (s : Source) : Scope :=
  { source := s, containers := r.frames.foldl (fun cs f => f.container :: cs) [] }

def innermost? (r : Reading) : Option Container := r.frames.head?.map Frame.container

/-- An item that began with a blank line ends if another blank line follows. -/
def finishEmptyItem (r : Reading) : Reading :=
  let isItem :=
    match r.innermost? with
    | some (.item _) => true
    | _ => false
  let r' := if r.emptyItem && r.afterBlank && isItem then r.pop else r
  { r' with emptyItem := false }

/-- The list that holds the innermost item is loose. -/
def loosen (r : Reading) : Reading :=
  match r.frames with
  | inner :: ⟨.list kind number _, blocks⟩ :: outer =>
    { r with frames := inner :: ⟨.list kind number false, blocks⟩ :: outer }
  | _ => r

/-- Before a block that is no item: an open list ends, and a blank line before the block makes
the list around it loose. -/
def finishList (r : Reading) : Reading :=
  let r := r.finishEmptyItem
  let r :=
    match r.innermost? with
    | some (.list ..) => r.pop
    | _ => r
  if r.afterBlank then { r.loosen with afterBlank := false } else r

/-- Before an item: go on with the list of its kind that is open, or begin one. -/
def continueList (r : Reading) (mark : ItemMark) : Reading :=
  let r := r.finishEmptyItem
  let begin := fun (r : Reading) =>
    { r.openFrame (.list mark.kind mark.number true) with afterBlank := false }
  match r.frames with
  | ⟨.list kind number tight, blocks⟩ :: outer =>
    if kind == mark.kind then
      if r.afterBlank then
        { r with frames := ⟨.list kind number false, blocks⟩ :: outer, afterBlank := false }
      else { r with frames := ⟨.list kind number tight, blocks⟩ :: outer }
    else begin r.finishList
  | _ => begin r.finishList

/-- Open the container of a footnote; one right around it ends. -/
def openFootnote (r : Reading) (label : List Char) : Reading :=
  let r := r.finishList
  let r :=
    match r.innermost? with
    | some (.footnote _) => r.pop
    | _ => r
  let footnotes := labelKey label :: r.references.footnotes
  { r.openFrame (.footnote label) with references := { r.references with footnotes } }

/-! ### Blocks -/

/-- What is left of a line once containers have been opened. -/
inductive LineRest where
  | content (m : Margin)
  /-- Nothing; the next line begins at a place. -/
  | none (next : Nat)
  deriving DecidableEq, Repr

/-- Open the containers that begin at a margin. `fuel` is more than the length of the text. -/
def openContainers (s : Source) : Nat → Reading → Margin → Reading × LineRest
  | 0, r, m => (r, .content m)
  | fuel + 1, r, m =>
    let (outer, inner) := m.take s 4
    if outer ≥ 4 then (r, .content m)
    else
      match footnoteMark? s false inner.place with
      | some (label, after) =>
        openContainers s fuel (r.openFootnote label) (.start (s.skipBlanks after))
      | none =>
        match item? s outer inner with
        | some (mark, indent, inside) =>
          let r := (r.continueList mark).openFrame (.item indent)
          match s.blankRest? inside.place with
          | some next => ({ r with emptyItem := true }, .none next)
          | none =>
            match taskMark? s inside with
            | some (checked, after) =>
              match s.blankRest? after.place with
              | some next => ({ r.add (.task checked) with emptyItem := true }, .none next)
              | none => openContainers s fuel { r with task := some checked } after
            | none => openContainers s fuel r inside
        | none =>
          match inner.quoteMark? s with
          | some inside => openContainers s fuel (r.finishList.openFrame .quote) inside
          | none => (r, .content m)

/-- A line that is blank within its containers. A blank line in a quote does not count for the
lists around the quote. An item that began with a blank line holds nothing that follows another one,
so that the columns of its indent are left to later lines. -/
def blankLine (r : Reading) : Reading :=
  match r.frames with
  | ⟨.quote, _⟩ :: _ => r
  | ⟨.item indent, blocks⟩ :: outer =>
    let indent := if r.emptyItem then 0 else indent
    { r with frames := ⟨.item indent, blocks⟩ :: outer, afterBlank := true }
  | _ => { r with afterBlank := true }

/-- Read a paragraph from a place on, or the table or heading that it turns out to be: what has been
read, and the place after it. -/
def paragraph (r : Reading) (s : Source) (place : Nat) : Reading × Nat :=
  let scope := r.scope s
  let marks := (r.task.map fun checked => (⟨place, place, .task checked⟩ : Piece)).toList
  let r := { r with task := none }
  match scope.paragraphLines (s.stop + 1) .first place marks with
  | (pieces, stop, .paragraph) => (r.add (.paragraph (.ofPieces scope stop pieces)), stop)
  | (pieces, stop, .heading level) => (r.add (.heading level (.ofPieces scope stop pieces)), stop)
  | (_, _, .table alignments body) =>
    let scope := { scope with inTable := true }
    let n := alignments.length
    let (rows, stop) := scope.rows n (s.stop + 1) body
    (r.add (.table alignments ((scope.row n place).1 :: rows)), stop)

/-- Read link definitions from a place on, and the paragraph after them if no other block follows.
A line after a definition goes on like a line of a paragraph. -/
def definitions (s : Source) : Nat → Reading → Nat → Reading × Nat
  | 0, r, place => r.paragraph s place
  | fuel + 1, r, place =>
    let scope := r.scope s
    match scope.definition? place with
    | none => r.paragraph s place
    | some (label, target, stop) =>
      let r := { r with references := r.references.define label target }
      match s.blankRest? stop with
      | none => (r, stop)
      | some next =>
        let (within, m) := scope.line next
        let (spaces, inner) := m.take s 4
        if spaces < 4 && scope.interrupts within inner.place then (r, next)
        else definitions s fuel r (inner.skip s).place

/-- Read the block that begins at a margin: what has been read, and the place after it. -/
def leaf (r : Reading) (s : Source) (m : Margin) : Reading × Nat :=
  let r := r.finishList
  let scope := r.scope s
  let fuel := s.stop + 1
  let (indent, inner) := m.take s 4
  let place := inner.place
  if indent == 4 then
    let (code, next, blank) := scope.indentedCode fuel place inner.pending false [] []
    ({ r.add (.code none code) with afterBlank := blank }, next)
  else
    match if s.has place '<' then RawHtml.block? s (place + 1) else none with
    | some kind =>
      let (content, next) := scope.htmlLines kind fuel place (max m.pending indent) []
      (r.add (.html content), next)
    | none =>
      match s.rule? place with
      | some next => (r.add .rule, next)
      | none =>
        match s.headingLevel? place with
        | some level =>
          let (text, next) := scope.heading (place + level)
          (r.add (.heading level text), next)
        | none =>
          match s.fence? place with
          | some (mark, length) =>
            let start := s.skipBlanks (place + length)
            let next := s.nextLine start
            let info := unescape false (dropEndWhile isSpace (s.slice start next))
            let (content, stop) := scope.fencedCode mark length indent fuel next []
            (r.add (.code (some info) content), (s.blankRest? stop).getD stop)
          | none => definitions s fuel r place

/-- Read the block that begins with the line at a place: what has been read, and the place after
it. -/
def block (r : Reading) (s : Source) (place : Nat) : Reading × Nat :=
  let (n, m) := (r.scope s).continued place
  match openContainers s (s.stop + 1) (r.popTo n) m with
  | (r, .none next) => (r, next)
  | (r, .content m) =>
    match s.blankRest? m.place with
    | some next => (r.blankLine, next)
    | none => r.leaf s m

/-- Read a text from a place on; `fuel` is more than the number of its characters. -/
def all (s : Source) : Nat → Reading → Nat → Reading
  | 0, r, _ => r
  | fuel + 1, r, place =>
    if place < s.stop then
      let (r, next) := r.block s place
      all s fuel r next
    else r

end Reading

/-- The blocks of a text and its definitions. -/
structure Document where
  blocks : List Block
  references : References
  deriving Repr, Inhabited

/-- Read a text. -/
def Document.read (text : List Char) : Document :=
  let s := Source.ofList text
  let r := (Reading.all s (text.length + 1) {} 0).popTo 0
  { blocks := r.blocks.reverse, references := r.references }

end LiterateSite.Markdown
