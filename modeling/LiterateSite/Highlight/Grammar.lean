import LiterateSite.Highlight.Token
import LiterateSite.Pattern.Reader

/-!
# Grammars

A grammar splits a text into tokens. It has named states, each with a list of rules. At a position
the first rule of the current state with a match that is not empty gives the next token, and may
switch the state; where no rule has one, the next character is plain text.

* `Rule`, `Grammar`: the data.
* `Grammar.scan`: the tokens as the rules give them, one for each step.
* `Grammar.tokenize`: the tokens of a text, neighbours of one kind merged.
-/

namespace LiterateSite.Highlight

/-- Why a text cannot be highlighted. -/
inductive HighlightError where
  | unknownLanguage (language : String)
  | unknownTheme (theme : String)
  | missingState (grammar state : String)
  | invalidRule (pattern : String)
  deriving DecidableEq, Repr, Inhabited

/-- The wording of an error. What the library of patterns says of one that is invalid is
`explained`. -/
def HighlightError.message (e : HighlightError) (explained : String → String := fun _ => "") :
    String :=
  match e with
  | unknownLanguage language => "Unknown language: " ++ language
  | unknownTheme theme => "Unknown theme: " ++ theme
  | invalidRule pattern => "Invalid grammar rule \x60" ++ pattern ++ "\x60: " ++ explained pattern
  | missingState grammar state => "Grammar " ++ grammar ++ " has no state named " ++ state

/-- A rule of a state. -/
structure Rule where
  pattern : Pattern
  kind : TokenKind
  /-- The state to switch to after a match. -/
  next : Option String := none
  deriving Repr, Inhabited

namespace Rule

/-- A rule for a pattern that matches at the current position only. -/
def anchored (pattern : Pattern) (kind : TokenKind) : Rule :=
  { pattern := .seq (.look .textStart) pattern, kind }

/-- A rule for a written pattern, put into an anchored group. -/
def read (pattern : String) (kind : TokenKind) : Except HighlightError Rule :=
  match Pattern.read? ("^(?:".toList ++ pattern.toList ++ [')']) with
  | some p => .ok { pattern := p, kind }
  | none => .error (.invalidRule pattern)

/-- The same rule, switching to a state. -/
def switch (rule : Rule) (state : String) : Rule := { rule with next := some state }

/-- How many characters of the text the rule takes: the end of its leftmost match, unless that
match is empty. -/
def length? (rule : Rule) (text : List Char) : Option Nat :=
  match rule.pattern.find? text with
  | some m => if m.isEmpty then none else some m.stop.consumed
  | none => none

end Rule

/-- A named grammar. -/
structure Grammar where
  name : String
  aliases : List String := []
  /-- The states by name; the first one of a name counts. -/
  states : List (String × List Rule) := []
  deriving Repr, Inhabited

namespace Grammar

/-- The state that every grammar starts in. -/
def rootState : String := "root"

/-- The grammar with the rules of one state set. -/
def withState (g : Grammar) (state : String) (rules : List Rule) : Grammar :=
  { g with states := (state, rules) :: g.states }

/-- The rules of a state. -/
def rules? (g : Grammar) (state : String) : Option (List Rule) := g.states.lookup state

/-- The grammar answers to a language: its lower case is the name or an alias. -/
def answersTo (g : Grammar) (language : String) : Bool :=
  let lower := Text.lowerString language
  g.name == lower || g.aliases.contains lower

end Grammar

/-- One step of a grammar. -/
structure Step where
  kind : TokenKind
  /-- How many characters the step takes. -/
  length : Nat
  /-- The state after the step. -/
  state : String
  deriving DecidableEq, Repr, Inhabited

/-- The step that the first matching rule takes in a state. -/
def stepOf (state : String) (text : List Char) : List Rule → Step
  | [] => ⟨.text, 1, state⟩
  | rule :: later =>
    match rule.length? text with
    | some (n + 1) => ⟨rule.kind, n + 1, rule.next.getD state⟩
    | _ => stepOf state text later

theorem stepOf_length_pos (state : String) (text : List Char) (rules : List Rule) :
    0 < (stepOf state text rules).length := by
  induction rules with
  | nil => exact Nat.one_pos
  | cons rule later ih =>
    unfold stepOf
    split
    · exact Nat.succ_pos _
    · exact ih

namespace Grammar

/-- The tokens of a text from a state on, one for each step. -/
def scan (g : Grammar) (state : String) (text : List Char) : Except HighlightError (List Token) :=
  match text with
  | [] => .ok []
  | c :: cs =>
    match g.rules? state with
    | none => .error (.missingState g.name state)
    | some rules =>
      let step := stepOf state (c :: cs) rules
      match g.scan step.state ((c :: cs).drop step.length) with
      | .ok later => .ok (⟨step.kind, (c :: cs).take step.length⟩ :: later)
      | .error e => .error e
termination_by text.length
decreasing_by
  have := stepOf_length_pos state (c :: cs) rules
  simp only [List.length_drop, List.length_cons]
  omega

/-- The tokens of a text. -/
def tokenize (g : Grammar) (text : List Char) : Except HighlightError (List Token) :=
  (g.scan rootState text).map coalesce

end Grammar

end LiterateSite.Highlight
