import LiterateSite.Text.Blank
import LiterateSite.Text.Utf8
import LiterateSite.Markdown.Block
import LiterateSite.Markdown.Inline

/-!
# Markdown as HTML

* `Page`: the markup written so far, and the footnotes in the order of their first mention.
* `Page.inline`, `Page.block`: write content.
* `toHtml`: the markup of a Markdown text; a text of blanks has none.
-/

namespace LiterateSite.Markdown

open Text

/-- A character of running text in markup. -/
def escapeTextChar (c : Char) : List Char :=
  match c with
  | '&' => "&amp;".toList
  | '<' => "&lt;".toList
  | '>' => "&gt;".toList
  | _ => [c]

/-- A character of an attribute in markup. -/
def escapeAttributeChar (c : Char) : List Char :=
  match c with
  | '"' => "&quot;".toList
  | '\'' => "&#39;".toList
  | _ => escapeTextChar c

def escapeText (cs : List Char) : List Char := cs.flatMap escapeTextChar

def escapeAttribute (cs : List Char) : List Char := cs.flatMap escapeAttributeChar

/-- A digit of a byte in an address. -/
def upperHexDigit (n : Nat) : Char := if n < 10 then Char.ofNat (48 + n) else Char.ofNat (55 + n)

/-- A byte that an address cannot hold. -/
def percentByte (b : UInt8) : List Char :=
  ['%', upperHexDigit (b.toNat / 16), upperHexDigit (b.toNat % 16)]

/-- A character that may stand in an address. -/
def isAddressChar (c : Char) : Bool := c.isAlphanum || "!#$%()*+,-./:;=?@^_~".toList.contains c

/-- A character of an address in markup. -/
def escapeAddressChar (c : Char) : List Char :=
  if isAddressChar c then [c]
  else if c == '&' then "&amp;".toList
  else if c == '\'' then "&#x27;".toList
  else (Utf8.encode [c]).flatMap percentByte

def escapeAddress (cs : List Char) : List Char := cs.flatMap escapeAddressChar

/-- A page in the making. -/
structure Page where
  /-- The markup, last character first. -/
  reversed : List Char := []
  /-- The footnotes mentioned, the first one first. -/
  notes : List (List Char) := []
  deriving Repr, Inhabited

namespace Page

def put (p : Page) (cs : List Char) : Page := { p with reversed := cs.reverseAux p.reversed }

def tag (p : Page) (s : String) : Page := p.put s.toList

/-- Begin a line unless one has just begun. -/
def fresh (p : Page) : Page :=
  match p.reversed with
  | [] => p
  | '\n' :: _ => p
  | _ => p.put ['\n']

/-- Write the mark of a task. -/
def task (p : Page) (checked : Bool) : Page :=
  let state := if checked then " checked=\"\"" else ""
  p.tag ("<input disabled=\"\" type=\"checkbox\"" ++ state ++ "/>\n")

/-- The number of a footnote: numbers go by first mention. -/
def number (p : Page) (label : List Char) : Page × List Char :=
  match p.notes.findIdx? (· == label) with
  | some i => (p, (toString (i + 1)).toList)
  | none =>
    ({ p with notes := p.notes ++ [label] }, (toString (p.notes.length + 1)).toList)

/-- The title of a link or an image. -/
def title (p : Page) (title : List Char) : Page :=
  if title.isEmpty then p else (p.tag "\" title=\"").put (escapeAttribute title)

mutual

/-- Write inline content as the text that stands for an image. -/
def alternative (p : Page) : Inline → Page
  | .text cs | .code cs | .html cs => p.put (escapeAttribute cs)
  | .softBreak | .hardBreak => p.put [' ']
  | .emphasis content | .strong content | .strike content => p.alternatives content
  | .link _ _ content | .image _ _ content => p.alternatives content
  | .task checked => p.put ['[', if checked then 'x' else ' ', ']']
  | .footnote label =>
    let (p, n) := p.number label
    ((p.put ['[']).put n).put [']']

def alternatives (p : Page) : List Inline → Page
  | [] => p
  | x :: rest => (p.alternative x).alternatives rest

end

mutual

/-- Write inline content. -/
def inline (p : Page) : Inline → Page
  | .text cs => p.put (escapeText cs)
  | .code cs => ((p.tag "<code>").put (escapeText cs)).tag "</code>"
  | .html cs => p.put cs
  | .task checked => p.task checked
  | .softBreak => p.put ['\n']
  | .hardBreak => p.tag "<br />\n"
  | .emphasis content => ((p.tag "<em>").inlines content).tag "</em>"
  | .strong content => ((p.tag "<strong>").inlines content).tag "</strong>"
  | .strike content => ((p.tag "<del>").inlines content).tag "</del>"
  | .link destination title content =>
    let p := ((p.tag "<a href=\"").put (escapeAddress destination)).title title
    ((p.tag "\">").inlines content).tag "</a>"
  | .image destination title content =>
    let p := ((p.tag "<img src=\"").put (escapeAddress destination)).tag "\" alt=\""
    ((p.alternatives content).title title).tag "\" />"
  | .footnote label =>
    let p := ((p.tag "<sup class=\"footnote-reference\"><a href=\"#").put
      (escapeAttribute label)).tag "\">"
    let (p, n) := p.number label
    (p.put n).tag "</a></sup>"

def inlines (p : Page) : List Inline → Page
  | [] => p
  | x :: rest => (p.inline x).inlines rest

end

/-- Write a passage. -/
def passage (p : Page) (refs : References) (text : Passage) : Page := p.inlines (text.content refs)

/-- The tag that begins a cell. -/
def cellTag (name : String) : Alignment → String
  | .none => "<" ++ name ++ ">"
  | .left => "<" ++ name ++ " style=\"text-align: left\">"
  | .center => "<" ++ name ++ " style=\"text-align: center\">"
  | .right => "<" ++ name ++ " style=\"text-align: right\">"

/-- Write the cells of a row. -/
def row (p : Page) (refs : References) (name : String) (alignments : List Alignment)
    (cells : List Passage) : Page :=
  (alignments.zip cells).foldl (fun p (alignment, cell) =>
    ((p.tag (cellTag name alignment)).passage refs cell).tag ("</" ++ name ++ ">")) p

/-- Write a table, whose first row is its head. -/
def table (p : Page) (refs : References) (alignments : List Alignment)
    (rows : List (List Passage)) : Page :=
  let p := p.tag "<table><thead><tr>"
  let p := p.row refs "th" alignments (rows.headD [])
  let p := p.tag "</tr></thead><tbody>\n"
  let p := (rows.drop 1).foldl (fun p cells =>
    ((p.tag "<tr>").row refs "td" alignments cells).tag "</tr>\n") p
  p.tag "</tbody></table>\n"

/-- The first word of the info text of code is its language. -/
def codeTag (info : Option (List Char)) : List Char :=
  let language := (info.getD []).takeWhile (· != ' ')
  if language.isEmpty then "<pre><code>".toList
  else "<pre><code class=\"language-".toList ++ escapeAttribute language ++ "\">".toList

/-- The tag that begins a list. -/
def listTag : Option Nat → String
  | some 1 => "<ol>\n"
  | some n => "<ol start=\"" ++ toString n ++ "\">\n"
  | none => "<ul>\n"

mutual

/-- Write a block. The paragraphs of a tight list's items have no tags. -/
def block (p : Page) (refs : References) (tight : Bool) : Block → Page
  | .paragraph text =>
    if tight then p.passage refs text else ((p.fresh.tag "<p>").passage refs text).tag "</p>\n"
  | .heading level text =>
    let name := "h" ++ toString level
    ((p.fresh.tag ("<" ++ name ++ ">")).passage refs text).tag ("</" ++ name ++ ">\n")
  | .code info content =>
    ((p.fresh.put (codeTag info)).put (escapeText content)).tag "</code></pre>\n"
  | .html content => p.put content
  | .rule => p.fresh.tag "<hr />\n"
  | .table alignments rows => p.table refs alignments rows
  | .task checked => p.task checked
  | .quote content => ((p.fresh.tag "<blockquote>\n").blocks refs false content).tag "</blockquote>\n"
  | .list start listTight items =>
    let closing := if start.isSome then "</ol>\n" else "</ul>\n"
    ((p.fresh.tag (listTag start)).blocks refs listTight items).tag closing
  | .item content => ((p.fresh.tag "<li>").blocks refs tight content).tag "</li>\n"
  | .footnote label content =>
    let p := ((p.fresh.tag "<div class=\"footnote-definition\" id=\"").put
      (escapeAttribute label)).tag "\"><sup class=\"footnote-definition-label\">"
    let (p, n) := p.number label
    (((p.put n).tag "</sup>").blocks refs false content).tag "</div>\n"

def blocks (p : Page) (refs : References) (tight : Bool) : List Block → Page
  | [] => p
  | b :: rest => (p.block refs tight b).blocks refs tight rest

end

end Page

/-- The markup of a document. -/
def Document.toHtml (d : Document) : List Char :=
  (({} : Page).blocks d.references false d.blocks).reversed.reverse

/-- The markup of a Markdown text. -/
def toHtml (text : List Char) : List Char :=
  if isBlankText text then [] else (Document.read text).toHtml

end LiterateSite.Markdown
