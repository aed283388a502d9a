import LiterateSite.Highlight.Grammar

/-!
# Built-in grammars

* `Grammar.javascript`: the language of the example sources.
* `Grammar.transcript`: a prompt line and the output of a run.
-/

namespace LiterateSite.Highlight

open CharSet Pattern

/-- Any character but a line end. -/
def inLine : CharSet := .compl (.single '\n')

/-- A string between two `quote` characters: a backslash takes a character of `escaped` with it. -/
def quotedText (quote : Char) (plain escaped : CharSet) : Pattern :=
  seqAll
    [one (single quote),
      star true (alt (one plain) (seq (one (single '\\')) (one escaped))),
      one (single quote)]

/-- One of the words, up to a word edge. -/
def wordAmong (words : List String) : Pattern :=
  seq (altAll (words.map literal)) (look (.wordEdge false))

/-- The words with a meaning of their own. -/
def javascriptKeywords : List String :=
  ["async", "await", "break", "case", "catch", "class", "const", "continue", "debugger", "default",
    "delete", "do", "else", "export", "extends", "finally", "for", "from", "function", "if",
    "import", "in", "instanceof", "let", "new", "of", "return", "static", "super", "switch", "this",
    "throw", "try", "typeof", "var", "void", "while", "with", "yield"]

/-- The words for constants. -/
def javascriptConstants : List String := ["true", "false", "null", "undefined", "NaN", "Infinity"]

/-- A number in base sixteen after `0x`, or a decimal one with fraction and exponent. -/
def javascriptNumber : Pattern :=
  let digits := plus true (one decimal)
  seqAll
    [alt
      (seqAll
        [one (single '0'), one (oneOf "xX"),
          plus true (one (unionAll [range '0' '9', range 'a' 'f', range 'A' 'F', single '_']))])
      (seqAll
        [one decimal, star true (one (union decimal (single '_'))),
          opt true (seq (one (single '.')) digits),
          opt true (seqAll [one (oneOf "eE"), opt true (one (oneOf "+-")), digits])]),
      opt true (one (single 'n')), look (.wordEdge false)]

/-- The first character of a name. -/
def nameStart : CharSet := unionAll [range 'A' 'Z', range 'a' 'z', single '_', single '$']

/-- A later character of a name. -/
def namePart : CharSet := union word (single '$')

/-- The rules of JavaScript. -/
def javascriptRules : List Rule :=
  [.anchored (plus true (one blank)) .text,
    .anchored (seq (literal "//") (star true (one inLine))) .comment,
    .anchored (seqAll [literal "/*", star false (one anything), literal "*/"]) .comment,
    .anchored (quotedText '\x60' (compl (oneOf "\x60\\")) anything) .string,
    .anchored (quotedText '"' (compl (oneOf "\"\\\n")) inLine) .string,
    .anchored (quotedText '\'' (compl (oneOf "'\\\n")) inLine) .string,
    .anchored javascriptNumber .number,
    .anchored (wordAmong javascriptKeywords) .keyword,
    .anchored (wordAmong javascriptConstants) .keywordConstant,
    .anchored (seq (one nameStart) (star true (one namePart))) .name,
    .anchored (plus true (one (oneOf "=+-*/%<>!&|^~?:"))) .operator,
    .anchored (one (oneOf "\x7b\x7d()[];,.")) .punctuation]

/-- The grammar of JavaScript. -/
def Grammar.javascript : Grammar :=
  { name := "javascript", aliases := ["js", "mjs"], states := [(rootState, javascriptRules)] }

/-- The grammar of transcripts. The first line that begins with `$` is the prompt, without its
end; all after that end is output, and so are the lines before the prompt. -/
def Grammar.transcript : Grammar :=
  { name := "transcript"
    aliases := ["console"]
    states :=
      [(rootState,
          [(Rule.anchored (seq (one (single '$')) (star true (one inLine))) .prompt).switch
            "prompt-end",
            .anchored (seq (star true (one inLine)) (one (single '\n'))) .output,
            .anchored (plus true (one inLine)) .output]),
        ("prompt-end", [(Rule.anchored (one (single '\n')) .text).switch "output"]),
        ("output", [.anchored (plus true (one anything)) .output])] }

end LiterateSite.Highlight
