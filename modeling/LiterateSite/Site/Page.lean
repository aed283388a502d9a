import LiterateSite.Highlight.Highlighter
import LiterateSite.Markdown.Html
import LiterateSite.Site.TemplateDirectory
import LiterateSite.Site.Transcript
import LiterateSite.Source.Example

/-!
# Pages

* `Example`: an example as a page shows it.
* `rows`: documentation beside code, with the description first and the transcript last.
* `examplePage`: the page of an example.
-/

namespace LiterateSite.Site

open Highlight

/-- An example as a page shows it. -/
structure Example where
  id : String
  displayName : String
  description : List Char
  segments : List Source.Segment
  digest : String
  previous : Option String
  next : Option String
  deriving DecidableEq, Repr, Inhabited

/-- The example of an entry with its source. -/
def Example.ofEntry (e : Entry) (source : Source.Example) (digest : String) : Example :=
  { id := e.id, displayName := e.displayName, digest, previous := e.previous, next := e.next
    description := source.description, segments := source.segments }

/-- What the index shows of an example. -/
def Example.indexEntry (x : Example) : Template.IndexEntry :=
  { id := x.id.toList, name := x.displayName.toList, description := x.description }

/-- How pages look. -/
structure Look where
  highlighter : Highlighter
  theme : Theme
  language : String
  siteTitle : String

/-- The language of transcripts. -/
def transcriptLanguage : String := "transcript"

namespace Look

/-- The markup of a transcript. -/
def transcript (k : Look) (text : List Char) : Except HighlightError (List Char) :=
  k.highlighter.highlight text transcriptLanguage k.theme

/-- The markup of code; no code has none. -/
def code (k : Look) (text : List Char) : Except HighlightError (List Char) :=
  if text.isEmpty then .ok [] else k.highlighter.highlight text k.language k.theme

/-- The row of a segment. -/
def segmentRow (k : Look) (s : Source.Segment) : Except HighlightError Template.Row := do
  let codeBlock ← k.code s.code
  return { markdown := Markdown.toHtml s.documentation, codeBlock }

/-- The rows of a page: the description, the segments, and the transcript. -/
def rows (k : Look) (x : Example) (transcriptMarkup : List Char) :
    Except HighlightError (List Template.Row) := do
  let middle ← x.segments.mapM k.segmentRow
  return { markdown := Markdown.toHtml x.description, codeBlock := [] }
    :: (middle ++ [{ markdown := [], codeBlock := transcriptMarkup }])

/-- What the page of an example shows. -/
def examplePage (k : Look) (x : Example) (rows : List Template.Row) : Template.ExamplePage :=
  { siteTitle := k.siteTitle.toList
    name := x.displayName.toList
    id := x.id.toList
    description := x.description
    previous := x.previous.map String.toList
    next := x.next.map String.toList
    rows }

end Look

end LiterateSite.Site
