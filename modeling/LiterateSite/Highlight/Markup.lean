import LiterateSite.Highlight.Token

/-!
# Token markup

Tokens as HTML: each token of a styled kind stands in a span of its class.

* `escape`: markup characters as entities.
* `format`: the markup of a token list, for a theme.
-/

namespace LiterateSite.Highlight.Markup

/-- A character of a text in markup. -/
def escapeChar (c : Char) : List Char :=
  match c with
  | '&' => "&amp;".toList
  | '<' => "&lt;".toList
  | '>' => "&gt;".toList
  | '"' => "&quot;".toList
  | '\'' => "&#39;".toList
  | _ => [c]

/-- A text in markup. -/
def escape (text : List Char) : List Char := text.flatMap escapeChar

/-- The tag before a token of a class. -/
def openTag (cls : String) : List Char := ("<span class=\"" ++ cls ++ "\">").toList

def closeTag : List Char := "</span>".toList

/-- The markup of one token. -/
def formatToken (t : Token) : List Char :=
  match t.kind.class? with
  | some cls => openTag cls ++ escape t.text ++ closeTag
  | none => escape t.text

/-- The tags around the tokens. -/
def opening (theme : String) : List Char := ("<pre class=\"chroma " ++ theme ++ "\"><code>").toList

def closing : List Char := "</code></pre>".toList

/-- The markup of the tokens between the tags. -/
def body (tokens : List Token) : List Char := tokens.flatMap formatToken

/-- The markup of a token list. -/
def format (theme : String) (tokens : List Token) : List Char :=
  opening theme ++ body tokens ++ closing

end LiterateSite.Highlight.Markup
