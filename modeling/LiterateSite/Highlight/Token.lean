/-!
# Tokens

Pieces of a text with a kind.

* `TokenKind`: the kinds, and the class name that each has in markup.
* `coalesce`: neighbours of one kind become one token.
-/

namespace LiterateSite.Highlight

/-- What a piece of text is. -/
inductive TokenKind where
  /-- Unstyled text: blanks and characters that no rule takes. -/
  | text
  | keyword
  | keywordConstant
  | name
  | string
  | number
  | comment
  | operator
  | punctuation
  /-- The command line of a transcript. -/
  | prompt
  /-- The program output of a transcript. -/
  | output
  deriving DecidableEq, Repr, Inhabited

/-- The class name of a kind; plain text has none. -/
def TokenKind.class? : TokenKind → Option String
  | .text => none
  | .keyword => some "k"
  | .keywordConstant => some "kc"
  | .name => some "nx"
  | .string => some "s"
  | .number => some "m"
  | .comment => some "c"
  | .operator => some "o"
  | .punctuation => some "p"
  | .prompt => some "gp"
  | .output => some "go"

/-- A piece of text with its kind. -/
structure Token where
  kind : TokenKind
  text : List Char
  deriving DecidableEq, Repr, Inhabited

/-- Put a token in front, merging it with the first one if that has the same kind. -/
def Token.attach (t : Token) : List Token → List Token
  | [] => [t]
  | u :: rest => if t.kind = u.kind then ⟨u.kind, t.text ++ u.text⟩ :: rest else t :: u :: rest

/-- Merge neighbours of one kind. -/
def coalesce : List Token → List Token
  | [] => []
  | t :: rest => t.attach (coalesce rest)

/-- The text that the tokens cover. -/
def textOf (tokens : List Token) : List Char := tokens.flatMap Token.text

end LiterateSite.Highlight
