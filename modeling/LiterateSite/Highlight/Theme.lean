import LiterateSite.Highlight.Grammar

/-!
# Themes

The colours of highlighted code.

* `Theme`, `Theme.all`: the themes.
* `Theme.find`: a theme by its name.
* `Theme.css`: the style sheet of a theme.
-/

namespace LiterateSite.Highlight

/-- How tokens of one kind look. -/
structure Style where
  color : String
  bold : Bool := false
  italic : Bool := false
  deriving DecidableEq, Repr, Inhabited

/-- A named set of styles. -/
structure Theme where
  /-- The name, which is also the class that scopes the styles. -/
  name : String
  background : String
  foreground : String
  styles : List (TokenKind × Style)
  deriving DecidableEq, Repr, Inhabited

namespace Theme

def tokyonightNight : Theme :=
  { name := "tokyonight-night"
    background := "#1a1b26"
    foreground := "#c0caf5"
    styles :=
      [(.keyword, { color := "#bb9af7", italic := true }),
        (.keywordConstant, { color := "#ff9e64" }),
        (.name, { color := "#c0caf5" }),
        (.string, { color := "#9ece6a" }),
        (.number, { color := "#ff9e64" }),
        (.comment, { color := "#51597d", italic := true }),
        (.operator, { color := "#89ddff" }),
        (.punctuation, { color := "#9abdf5" }),
        (.prompt, { color := "#7aa2f7", bold := true }),
        (.output, { color := "#a9b1d6" })] }

def github : Theme :=
  { name := "github"
    background := "#ffffff"
    foreground := "#24292f"
    styles :=
      [(.keyword, { color := "#cf222e" }),
        (.keywordConstant, { color := "#0550ae" }),
        (.name, { color := "#24292f" }),
        (.string, { color := "#0a3069" }),
        (.number, { color := "#0550ae" }),
        (.comment, { color := "#6e7781", italic := true }),
        (.operator, { color := "#0550ae" }),
        (.punctuation, { color := "#24292f" }),
        (.prompt, { color := "#8250df", bold := true }),
        (.output, { color := "#57606a" })] }

/-- The built-in themes. -/
def all : List Theme := [tokyonightNight, github]

/-- The name of the theme that is used if none is named. -/
def defaultName : String := tokyonightNight.name

/-- The theme of a name. -/
def find (name : String) : Except HighlightError Theme :=
  match all.find? fun theme => theme.name == name with
  | some theme => .ok theme
  | none => .error (.unknownTheme name)

/-- The rule of one kind of token; plain text has none. -/
def styleRule (theme : Theme) (kind : TokenKind) (style : Style) : String :=
  match kind.class? with
  | some cls =>
    ".chroma." ++ theme.name ++ " ." ++ cls ++ " \x7b color: " ++ style.color ++ ";"
      ++ (if style.bold then " font-weight: bold;" else "")
      ++ (if style.italic then " font-style: italic;" else "") ++ " \x7d\n"
  | none => ""

/-- The style sheet of a theme. -/
def css (theme : Theme) : String :=
  ".chroma." ++ theme.name ++ " \x7b background-color: " ++ theme.background ++ "; color: "
    ++ theme.foreground ++ "; \x7d\n"
    ++ String.join (theme.styles.map fun (kind, style) => theme.styleRule kind style)

end Theme

end LiterateSite.Highlight
