import LiterateSite.Markdown.Target

/-!
# Emphasis

* `Inline`: text, code, emphasis, links and the like.
* `Run`: a run of one delimiter character, and which runs go together (`Run.closes`).
* `resolve`: runs become emphasis.
-/

namespace LiterateSite.Markdown

/-- Inline content. -/
inductive Inline where
  | text (chars : List Char)
  | code (chars : List Char)
  | html (chars : List Char)
  | task (checked : Bool)
  | softBreak
  | hardBreak
  | emphasis (content : List Inline)
  | strong (content : List Inline)
  | strike (content : List Inline)
  | link (destination title : List Char) (content : List Inline)
  | image (destination title : List Char) (content : List Inline)
  | footnote (label : List Char)
  deriving Repr, Inhabited

/-- A run of one delimiter character. -/
structure Run where
  delimiter : Char
  /-- How many characters of the run are left to match. -/
  count : Nat
  /-- How many it had. -/
  length : Nat
  canOpen : Bool
  canClose : Bool
  /-- Text that belongs to the last character of the run. -/
  tail : List Char := []
  deriving DecidableEq, Repr, Inhabited

namespace Run

/-- A run that can open and close. -/
def isBoth (r : Run) : Bool := r.canOpen && r.canClose

/-- The characters left, as text. -/
def asText (r : Run) : Inline := .text (List.replicate r.count r.delimiter ++ r.tail)

/-- The run `closing` may end what the run `opening` begins. Runs on tildes must have one length;
if a run can both open and close, the lengths must not add up to a multiple of three, unless both
are multiples of three. -/
def closes (closing opening : Run) : Bool :=
  opening.delimiter == closing.delimiter
    && (closing.delimiter != '~' || opening.length == closing.length)
    && ((!closing.isBoth && !opening.isBoth) || (closing.length + opening.length) % 3 != 0
      || closing.length % 3 == 0)

end Run

/-- Content inside `n` pairs of delimiters: pairs of two first, from the inside out. -/
def wrap (delimiter : Char) : Nat → List Inline → List Inline
  | 0, content => content
  | 1, content => [if delimiter == '~' then .strike content else .emphasis content]
  | n + 2, content =>
    wrap delimiter n [if delimiter == '~' then .strike content else .strong content]

/-- Runs that close the same runs: by delimiter, by length and by whether they can open, too. -/
structure RunClass where
  delimiter : Char
  remainder : Nat
  both : Bool
  deriving DecidableEq, Repr, Inhabited

/-- The class of a run. What one run on tildes has not found is no longer looked for by any. -/
def Run.class (r : Run) : RunClass :=
  if r.delimiter == '~' then ⟨'~', 0, false⟩ else ⟨r.delimiter, r.length % 3, r.isBoth⟩

/-- A run that may open, with the content after it, last first. -/
structure Level where
  run : Run
  content : List Inline := []
  deriving Repr, Inhabited

/-- The content before the current place: that before all runs that may open, last first, and
these runs, the last one first. -/
structure Emphasis where
  outer : List Inline := []
  levels : List Level := []
  /-- How many of the runs, from the first one on, are known not to match. -/
  bounds : List (RunClass × Nat) := []
  deriving Repr, Inhabited

namespace Emphasis

def push (e : Emphasis) (x : Inline) : Emphasis :=
  match e.levels with
  | [] => { e with outer := x :: e.outer }
  | level :: below => { e with levels := { level with content := x :: level.content } :: below }

def bound (e : Emphasis) (cls : RunClass) : Nat := (e.bounds.lookup cls).getD 0

def setBound (e : Emphasis) (cls : RunClass) (n : Nat) : Emphasis :=
  { e with bounds := (cls, n) :: e.bounds.filter (·.1 != cls) }

/-- The content of levels, outermost last, whose runs are text, before more content. -/
def asText (levels : List Level) (after : List Inline) : List Inline :=
  levels.foldl (fun after level => level.run.asText :: level.content.reverseAux after) after

/-- All content, in order. -/
def toList (e : Emphasis) : List Inline := e.outer.reverseAux (asText e.levels [])

/-- Match a closing run with earlier runs, the nearest one first, while characters of it are left;
`fuel` is more than their number. What is left may open, or is text. -/
def close : Nat → Emphasis → Run → Emphasis
  | 0, e, _ => e
  | fuel + 1, e, run =>
    if run.count == 0 then e
    else
      let depth := e.levels.length
      let near := e.levels.take (depth - e.bound run.class)
      match if run.canClose then near.findIdx? (run.closes ·.run) else none with
      | some i =>
        match e.levels.drop i with
        | [] => e
        | level :: below =>
          let matched := min run.count level.run.count
          let left := level.run.count - matched
          let inside := level.content.reverseAux (asText (e.levels.take i) [])
          let kept := below.length
          let below := if left > 0 then ⟨{ level.run with count := left }, []⟩ :: below else below
          let e : Emphasis :=
            { e with levels := below, bounds := e.bounds.map fun (cls, n) => (cls, min n kept) }
          let e := (wrap run.delimiter matched inside).foldl push e
          close fuel e { run with count := run.count - matched }
      | none =>
        let e := if run.canClose then e.setBound run.class depth else e
        if run.canOpen then { e with levels := ⟨run, []⟩ :: e.levels } else e.push run.asText

end Emphasis

/-- Content whose emphasis is not yet known. -/
inductive Unresolved where
  | node (content : Inline)
  /-- A line break that a backslash makes. -/
  | backslashBreak
  | run (run : Run)
  deriving Repr, Inhabited

/-- Content with emphasis. In content with `markup`, a backslash that would break the last line is
text. -/
def resolve (markup : Bool) (content : List Unresolved) : List Inline :=
  let step := fun (e : Emphasis) (x : Unresolved) =>
    match x with
    | .node content => e.push content
    | .backslashBreak => e.push .hardBreak
    | .run run => e.close (run.count + 1) run
  match content.getLast? with
  | some .backslashBreak =>
    let last := if markup then .text ['\\'] else .hardBreak
    ((content.dropLast.foldl step {}).push last).toList
  | _ => (content.foldl step {}).toList

end LiterateSite.Markdown
