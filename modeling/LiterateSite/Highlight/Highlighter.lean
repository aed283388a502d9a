import LiterateSite.Highlight.Languages
import LiterateSite.Highlight.Markup
import LiterateSite.Highlight.Theme

/-!
# Highlighters

A highlighter gives the markup of code in a language and the style sheet that goes with it.

* `Highlighter`: any such pair.
* `Registry`: grammars by language; the one registered last is found first.
* `Registry.highlighter`: the highlighter that works by the grammars of a registry.
* `Highlighter.plain`: shows code as it is.
-/

namespace LiterateSite.Highlight

/-- Gives markup for code. -/
structure Highlighter where
  /-- The markup of a text in a language, under a theme. -/
  highlight : (text : List Char) → (language : String) → Theme → Except HighlightError (List Char)
  /-- The style sheet of a theme. -/
  stylesheet : Theme → Except HighlightError String

/-- Grammars, the one to be found first in front. -/
structure Registry where
  grammars : List Grammar
  deriving Repr, Inhabited

namespace Registry

/-- The built-in grammars. -/
def builtin : Registry := ⟨[.javascript, .transcript]⟩

/-- Register a grammar in front of the others. -/
def register (r : Registry) (g : Grammar) : Registry := ⟨g :: r.grammars⟩

/-- The grammar that answers to a language. -/
def find? (r : Registry) (language : String) : Option Grammar :=
  r.grammars.find? fun g => g.answersTo language

/-- The tokens of a text in a language. -/
def tokenize (r : Registry) (language : String) (text : List Char) :
    Except HighlightError (List Token) :=
  match r.find? language with
  | some g => g.tokenize text
  | none => .error (.unknownLanguage language)

/-- The markup of a text in a language. -/
def highlight (r : Registry) (text : List Char) (language : String) (theme : Theme) :
    Except HighlightError (List Char) :=
  (r.tokenize language text).map (Markup.format theme.name)

/-- The highlighter of a registry. -/
def highlighter (r : Registry) : Highlighter :=
  { highlight := r.highlight, stylesheet := fun theme => .ok theme.css }

end Registry

/-- A highlighter that puts a text between tags and leaves it as it is. -/
def Highlighter.plain : Highlighter :=
  { highlight := fun text language _ =>
      .ok ("<pre class=\"plain ".toList ++ language.toList ++ "\">".toList ++ text
        ++ "</pre>".toList)
    stylesheet := fun theme => .ok (".plain." ++ theme.name ++ " \x7b color: red; \x7d") }

end LiterateSite.Highlight
