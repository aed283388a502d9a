/-!
# Shell commands

The scripts that examples are run by.

* `Part`: a part of a word, known before or only when it is expanded.
* `Redirect`: where a command reads from or writes to.
* `Command`: simple commands, and commands made of others.
-/

namespace LiterateSite.Shell

mutual

/-- A part of a word. Parts in quotes are not split into fields. -/
inductive Part where
  | literal (chars : List Char) (quoted : Bool)
  | variable (name : List Char) (use : Use) (quoted : Bool)
  | output (body : Command) (quoted : Bool)
  | number (expression : List Part) (quoted : Bool)

/-- What a variable stands for. With `filled` an empty value counts as none. -/
inductive Use where
  | value
  | length
  /-- The value, or else a word. -/
  | orElse (filled : Bool) (word : List Part)
  /-- The value, or else a word, which becomes the value. -/
  | orAssign (filled : Bool) (word : List Part)
  /-- The value, or else the script ends with a word. -/
  | orFail (filled : Bool) (word : List Part)
  /-- A word if there is a value. -/
  | instead (filled : Bool) (word : List Part)
  /-- The value without the part at its start, or at its end, that a pattern matches. -/
  | without (atEnd longest : Bool) (pattern : List Part)
  /-- Nothing: what is asked for has no meaning. -/
  | bad

/-- Where a command reads from or writes to. -/
inductive Redirect where
  | input (file : List Part)
  | output (fd : Nat) (append : Bool) (file : List Part)
  | duplicate (fd target : Nat)
  /-- Text that stands in the script itself. -/
  | here (body : List Part)

/-- A value given to a variable. -/
inductive Assignment where
  | mk (name : List Char) (value : List Part)

/-- The commands for a word that one of some patterns matches. -/
inductive Choice where
  | mk (patterns : List (List Part)) (body : Command)

/-- Commands. -/
inductive Command where
  | nothing
  /-- A command by its words; so many line ends follow it in the script. -/
  | simple (assignments : List Assignment) (words : List (List Part)) (redirects : List Redirect)
    (lineEnds : Nat)
  | redirected (body : Command) (redirects : List Redirect)
  | pipe (first second : Command)
  | negate (body : Command)
  | sequence (first second : Command)
  | ifHolds (first second : Command)
  | ifFails (first second : Command)
  | branch (test yes no : Command)
  /-- Repeat while a test holds, or until it does. -/
  | loop (untilHolds : Bool) (test body : Command)
  | each (name : List Char) (words : List (List Part)) (body : Command)
  | choose (word : List Part) (choices : List Choice)
  | subshell (body : Command)
  | define (name : List Char) (body : Command)

end

instance : Inhabited Command := ⟨.nothing⟩

end LiterateSite.Shell
