import LiterateSite.Shell.Command

/-!
# Reading scripts

A script is read line by line: what stands before a line that cannot be read is carried out.

* `Token`: what stands at a place of a script.
* `SyntaxError`: what is wrong with a script, and where.
* `nextLine`: the commands of the next line, and of the lines that belong to it.
-/

namespace LiterateSite.Shell.Script

/-- What stands at a place of a script. -/
inductive Token where
  | endOfFile
  | newline
  | redirection
  | word
  /-- A sign or a keyword. -/
  | sign (text : String)
  deriving DecidableEq, Repr, Inhabited

def Token.shown : Token → String
  | .endOfFile => "end of file"
  | .newline => "newline"
  | .redirection => "redirection"
  | .word => "word"
  | .sign text => "\"" ++ text ++ "\""

/-- What is wrong with a script. -/
structure SyntaxError where
  message : String
  /-- How many line ends follow the place. -/
  lineEnds : Nat
  deriving DecidableEq, Repr, Inhabited

/-- Where the reading stands. -/
structure Place where
  rest : List Char
  /-- How many line ends follow the text that is read. -/
  below : Nat := 0
  deriving Repr, Inhabited

/-- Steps of reading. -/
abbrev Reader := StateT Place (Except SyntaxError)

/-! ## Characters and names -/

/-- Characters that end a word. -/
def isMeta (c : Char) : Bool :=
  c == ' ' || c == '\t' || c == '\n' || c == ';' || c == '&' || c == '|' || c == '<' || c == '>'
    || c == '(' || c == ')'

def isNameStart (c : Char) : Bool := c.isAlpha || c == '_'

def isNameChar (c : Char) : Bool := c.isAlphanum || c == '_'

/-- The text is the name of a variable or a function. -/
def isName (text : List Char) : Bool := text.head?.any isNameStart && text.all isNameChar

/-- The name of a special variable. -/
def isSpecialName (c : Char) : Bool := c.isDigit || "#?$@*!-".toList.contains c

/-- The name of a variable at the start of a text. -/
def variableName (text : List Char) : List Char :=
  if text.head?.any isNameStart then text.takeWhile isNameChar
  else if text.head?.any isSpecialName then text.take 1
  else []

/-- The name of a variable in braces, which may be a number of several digits. -/
def bracedName (text : List Char) : List Char :=
  if text.head?.any Char.isDigit then text.takeWhile Char.isDigit else variableName text

/-- How many line ends a text has. -/
def lineEndsIn (text : List Char) : Nat := text.countP (· == '\n')

/-- Past spaces, joined lines and comments. -/
def skipSpace : List Char → List Char
  | '\\' :: '\n' :: rest => skipSpace rest
  | '#' :: rest => rest.dropWhile (· != '\n')
  | c :: rest => if c == ' ' || c == '\t' then skipSpace rest else c :: rest
  | [] => []

/-- Past spaces, line ends and comments; `fuel` is at least the length. -/
def skipLines : Nat → List Char → List Char
  | 0, text => text
  | fuel + 1, text =>
    match skipSpace text with
    | '\n' :: rest => skipLines fuel rest
    | rest => rest

/-- What stands between parentheses up to the one that closes them; `depth` of them are open. -/
def enclosed? : Nat → List Char → Option (List Char × List Char)
  | _, [] => none
  | depth, c :: rest =>
    if c == ')' && depth == 0 then some ([], rest)
    else
      let depth := if c == '(' then depth + 1 else if c == ')' then depth - 1 else depth
      (enclosed? depth rest).map fun (inside, after) => (c :: inside, after)

/-- What stands before the next backquote that no backslash precedes, with backslashes before
special characters dropped. -/
def backquoted? (quoted : Bool) : List Char → Option (List Char × List Char)
  | [] => none
  | '\x60' :: rest => some ([], rest)
  | '\\' :: c :: rest =>
    let here := if c == '\x60' || c == '\\' || c == '$' || (quoted && c == '"') then [c] else ['\\', c]
    (backquoted? quoted rest).map fun (inside, after) => (here ++ inside, after)
  | c :: rest => (backquoted? quoted rest).map fun (inside, after) => (c :: inside, after)

/-- An assignment at the start of a text: the name and what follows the sign. -/
def assignment? (text : List Char) : Option (List Char × List Char) :=
  let name := text.takeWhile isNameChar
  match text.drop name.length with
  | '=' :: rest => if name.head?.any isNameStart then some (name, rest) else none
  | _ => none

/-! ## Tokens -/

/-- The signs between commands, the longer ones first. -/
def separators : List String := ["&&", "||", ";;", "&", "|", ";", "(", ")"]

def keywords : List String :=
  ["!", "case", "do", "done", "elif", "else", "esac", "fi", "for", "if", "in", "then", "until",
    "while", "\x7b", "\x7d"]

/-- The tokens that end a list of commands. -/
def endings : List String :=
  [")", ";;", "do", "done", "elif", "else", "esac", "fi", "then", "\x7d"]

/-- The token at the start of a text. -/
def tokenAt (text : List Char) : Token :=
  match separators.find? fun s => s.toList.isPrefixOf text with
  | some s => .sign s
  | none =>
    match text with
    | [] => .endOfFile
    | '\n' :: _ => .newline
    | _ =>
      match text.dropWhile Char.isDigit with
      | '<' :: _ | '>' :: _ => .redirection
      | _ =>
        let w := String.ofList (text.takeWhile fun c => !isMeta c)
        if keywords.contains w then .sign w else .word

/-- The same token where keywords have no meaning. -/
def Token.plain : Token → Token
  | .sign s => if keywords.contains s then .word else .sign s
  | t => t

/-- The next token. -/
def upcoming : Reader Token := do
  modify fun p => { p with rest := skipSpace p.rest }
  return tokenAt (← get).rest

/-- The next token after line ends. -/
def upcomingPastLines : Reader Token := do
  modify fun p => { p with rest := skipLines p.rest.length p.rest }
  return tokenAt (← get).rest

/-- Go past some characters. -/
def skip (n : Nat) : Reader Unit := modify fun p => { p with rest := p.rest.drop n }

/-- How many line ends follow. -/
def lineEndsAhead : Reader Nat := do
  let p ← get
  return lineEndsIn p.rest + p.below

/-- The script cannot be read here. -/
def fault {α : Type} (message : String) : Reader α := do
  throw ⟨"Syntax error: " ++ message, ← lineEndsAhead⟩

/-- The script ends too early. -/
def faultAtEnd {α : Type} (message : String) : Reader α := do
  throw ⟨"Syntax error: " ++ message, (← get).below⟩

/-- A token that may not stand here. -/
def unexpected {α : Type} (t : Token) (wanted : Option Token) : Reader α := do
  if t == .newline then skip 1
  fault (t.shown ++ " unexpected" ++ (match wanted with
    | some w => " (expecting " ++ w.shown ++ ")"
    | none => ""))

/-- Go past a sign or keyword, which has to come next. -/
def require (text : String) : Reader Unit := do
  let t ← upcomingPastLines
  if t == .sign text then skip text.length else unexpected t (some (.sign text))

/-- Read a part of the text on its own and go on after it. -/
def within {α : Type} (inside after : List Char) (r : Reader α) : Reader α := do
  let below := (← get).below
  set ({ rest := inside, below := below + lineEndsIn after } : Place)
  let a ← r
  set ({ rest := after, below } : Place)
  return a

/-! ## Text in the script -/

/-- The lines up to one that is the delimiter, and the rest; with `tabs`, tabs at the start of
lines are dropped. -/
def hereText (tabs : Bool) (delimiter : List Char) : Nat → List Char → List Char × List Char
  | 0, text => ([], text)
  | _ + 1, [] => ([], [])
  | fuel + 1, text =>
    let line := text.takeWhile (· != '\n')
    let after := text.drop (line.length + 1)
    let line := if tabs then line.dropWhile (· == '\t') else line
    if line == delimiter then ([], after)
    else
      let (body, rest) := hereText tabs delimiter fuel after
      (line ++ '\n' :: body, rest)

/-- The word that ends such text, without quotes, and whether it had any. -/
def delimiterOf (raw : List Char) : List Char × Bool :=
  let isQuote := fun c => c == '\'' || c == '"' || c == '\\'
  (raw.filter fun c => !isQuote c, raw.any isQuote)

/-- The signs in braces after the name of a variable that a word follows; the longer ones come
first. -/
def wordUses : List (String × (List Part → Use)) :=
  [(":-", .orElse true), (":=", .orAssign true), (":?", .orFail true), (":+", .instead true),
    ("-", .orElse false), ("=", .orAssign false), ("?", .orFail false), ("+", .instead false)]

/-- The signs in braces after the name of a variable that a pattern follows. -/
def patternUses : List (String × (List Part → Use)) :=
  [("%%", .without true true), ("%", .without true false),
    ("##", .without false true), ("#", .without false false)]

/-- What a list of commands is part of. -/
inductive Extent where
  /-- The script itself: the list ends with the line. -/
  | line
  /-- A command, which needs a list that is not empty. -/
  | body
  /-- A choice or a substitution. -/
  | inner
  deriving DecidableEq, Repr, Inhabited

/-- Commands one after another, the last first. -/
def sequenceOf : List Command → Command
  | [] => .nothing
  | last :: before => before.foldl (fun later c => .sequence c later) last

/-- A command that the script does not wait for. -/
def background (lineEnds : Nat) (c : Command) : Command :=
  .sequence (.subshell c) (.simple [] [[.literal [':'] true]] [] lineEnds)

mutual

/-- What a dollar sign begins. -/
def expansion : Nat → Bool → Reader Part
  | 0, _ => fault "too deep"
  | fuel + 1, quoted => do
    match (← get).rest with
    | '(' :: '(' :: rest =>
      match enclosed? 0 rest with
      | some (inside, ')' :: after) =>
        return .number (← within inside after (textParts fuel none)) quoted
      | _ => faultAtEnd "Missing '))'"
    | '(' :: _ =>
      skip 1
      let body ← list fuel .inner []
      require ")"
      return .output body quoted
    | '\x7b' :: _ =>
      skip 1
      braced fuel quoted
    | text =>
      let name := variableName text
      if name.isEmpty then return .literal ['$'] quoted
      skip name.length
      return .variable name .value quoted

/-- A variable in braces, after the opening one. -/
def braced : Nat → Bool → Reader Part
  | 0, _ => fault "too deep"
  | fuel + 1, quoted => do
    let text := (← get).rest
    let counted := bracedName (text.drop 1)
    if text.head? == some '#' && !counted.isEmpty
        && (text.drop (counted.length + 1)).head? == some '\x7d' then
      skip (counted.length + 2)
      return .variable counted .length quoted
    else
      let name := bracedName text
      let after := text.drop name.length
      skip name.length
      if !name.isEmpty && after.head? == some '\x7d' then
        skip 1
        return .variable name .value quoted
      else
        let isNext := fun (sign : String) => !name.isEmpty && sign.toList.isPrefixOf after
        match wordUses.find? fun (sign, _) => isNext sign with
        | some (sign, use) =>
          skip sign.length
          let word ← if quoted then textParts fuel (some '\x7d') else wordParts fuel true
          return .variable name (use word) quoted
        | none =>
          match patternUses.find? fun (sign, _) => isNext sign with
          | some (sign, use) =>
            skip sign.length
            return .variable name (use (← wordParts fuel true)) quoted
          | none =>
            let _ ← wordParts fuel true
            return .variable name .bad quoted

/-- A command between backquotes, after the first. -/
def backquote : Nat → Bool → Reader Part
  | 0, _ => fault "too deep"
  | fuel + 1, quoted => do
    match backquoted? quoted (← get).rest with
    | none => faultAtEnd "EOF in backquote substitution"
    | some (inside, after) =>
      let body ← within inside after do
        let c ← list fuel .inner []
        let t ← upcoming
        if t == .endOfFile then return c else unexpected t none
      return .output body quoted

/-- The parts of quoted text, up to the character that closes it or else to its end. -/
def textParts : Nat → Option Char → Reader (List Part)
  | 0, _ => fault "too deep"
  | fuel + 1, closing => do
    match (← get).rest with
    | [] =>
      match closing with
      | none => return []
      | some '"' => faultAtEnd "Unterminated quoted string"
      | some _ => faultAtEnd "Missing '\x7d'"
    | '\\' :: c :: _ =>
      skip 2
      let special := c == '$' || c == '\x60' || c == '\\' || (closing.isSome && c == '"')
        || closing == some c
      let chars := if c == '\n' then [] else if special then [c] else ['\\', c]
      return .literal chars true :: (← textParts fuel closing)
    | '$' :: _ =>
      skip 1
      let part ← expansion fuel true
      return part :: (← textParts fuel closing)
    | '\x60' :: _ =>
      skip 1
      let part ← backquote fuel true
      return part :: (← textParts fuel closing)
    | c :: _ =>
      skip 1
      if closing == some c then return []
      else if c == '"' && closing.isSome then textParts fuel closing
      else return .literal [c] true :: (← textParts fuel closing)

/-- The parts of a word; in braces it goes on to the closing one. -/
def wordParts : Nat → Bool → Reader (List Part)
  | 0, _ => fault "too deep"
  | fuel + 1, inBraces => do
    let text := (← get).rest
    match text with
    | [] => if inBraces then faultAtEnd "Missing '\x7d'" else return []
    | '\'' :: rest =>
      let inside := rest.takeWhile (· != '\'')
      if inside.length == rest.length then faultAtEnd "Unterminated quoted string"
      skip (inside.length + 2)
      return .literal inside true :: (← wordParts fuel inBraces)
    | '"' :: _ =>
      skip 1
      let inside ← textParts fuel (some '"')
      let inside := if inside.isEmpty then [.literal [] true] else inside
      return inside ++ (← wordParts fuel inBraces)
    | '\\' :: '\n' :: _ =>
      skip 2
      wordParts fuel inBraces
    | '\\' :: c :: _ =>
      skip 2
      return .literal [c] true :: (← wordParts fuel inBraces)
    | '$' :: _ =>
      skip 1
      let part ← expansion fuel false
      return part :: (← wordParts fuel inBraces)
    | '\x60' :: _ =>
      skip 1
      let part ← backquote fuel false
      return part :: (← wordParts fuel inBraces)
    | c :: _ =>
      if inBraces && c == '\x7d' then
        skip 1
        return []
      else if !inBraces && isMeta c then return []
      else
        skip 1
        return .literal [c] false :: (← wordParts fuel inBraces)

/-- The word after the sign of a redirection. -/
def redirectWord : Nat → Reader (List Part)
  | 0 => fault "too deep"
  | fuel + 1 => do
    let t ← upcoming
    if t.plain == .word then wordParts fuel false else unexpected t.plain none

/-- The file descriptor after the sign of a redirection. -/
def descriptor : Nat → Reader Nat
  | 0 => fault "too deep"
  | fuel + 1 => do
    match ← redirectWord fuel with
    | [.literal [c] _] => if c.isDigit then return c.toNat - '0'.toNat else fault "Bad fd number"
    | _ => fault "Bad fd number"

/-- A redirection. -/
def redirection : Nat → Reader Redirect
  | 0 => fault "too deep"
  | fuel + 1 => do
    let text := (← get).rest
    let digits := text.takeWhile Char.isDigit
    let number := digits.foldl (fun n c => n * 10 + (c.toNat - '0'.toNat)) 0
    let out := if digits.isEmpty then 1 else number
    skip digits.length
    match (← get).rest with
    | '<' :: '<' :: rest =>
      let tabs := rest.head? == some '-'
      skip (if tabs then 3 else 2)
      let t ← upcoming
      if t.plain != .word then unexpected t.plain none
      let before := (← get).rest
      let _ ← wordParts fuel false
      let after := (← get).rest
      let (delimiter, literal) := delimiterOf (before.take (before.length - after.length))
      let line := after.takeWhile (· != '\n')
      let (body, rest) := hereText tabs delimiter after.length (after.drop (line.length + 1))
      let rest := if line.length < after.length then line ++ '\n' :: rest else line
      if literal then
        modify fun p => { p with rest }
        return .here [.literal body true]
      else return .here (← within body rest (textParts fuel none))
    | '<' :: '&' :: _ =>
      skip 2
      return .duplicate 0 (← descriptor fuel)
    | '<' :: c :: _ =>
      skip (if c == '>' then 2 else 1)
      return .input (← redirectWord fuel)
    | '>' :: '&' :: _ =>
      skip 2
      return .duplicate out (← descriptor fuel)
    | '>' :: c :: _ =>
      skip (if c == '>' || c == '|' then 2 else 1)
      return .output out (c == '>') (← redirectWord fuel)
    | _ =>
      skip 1
      redirectWord fuel >>= fun word => return .input word

/-- Redirections after a command. -/
def redirections : Nat → Reader (List Redirect)
  | 0 => fault "too deep"
  | fuel + 1 => do
    if (← upcoming) == .redirection then
      let r ← redirection fuel
      return r :: (← redirections fuel)
    else return []

/-- A simple command or the definition of a function, by what of it has been read, last first. -/
def simple : Nat → Nat → List Assignment → List (List Part × List Char) → List Redirect → Reader Command
  | 0, _, _, _, _ => fault "too deep"
  | fuel + 1, lineEnds, assignments, words, redirects => do
    let t ← upcoming
    let before := (← get).rest
    match t.plain with
    | .word =>
      match if words.isEmpty then assignment? before else none with
      | some (name, rest) =>
        modify fun p => { p with rest }
        let value ← wordParts fuel false
        simple fuel lineEnds (.mk name value :: assignments) words redirects
      | none =>
        let parts ← wordParts fuel false
        let raw := before.take (before.length - (← get).rest.length)
        simple fuel lineEnds assignments ((parts, raw) :: words) redirects
    | .redirection =>
      let r ← redirection fuel
      simple fuel lineEnds assignments words (r :: redirects)
    | t =>
      match words with
      | [(_, name)] =>
        if t == .sign "(" && assignments.isEmpty && redirects.isEmpty then
          skip 1
          let t ← upcoming
          if t != .sign ")" then unexpected t.plain (some (.sign ")"))
          skip 1
          if !isName name then fault "Bad function name"
          let _ ← upcomingPastLines
          return .define name (← command fuel)
        else
          return .simple assignments.reverse (words.reverse.map (·.1)) redirects.reverse lineEnds
      | _ =>
        return .simple assignments.reverse (words.reverse.map (·.1)) redirects.reverse lineEnds

/-- The words up to the end of a line. -/
def words : Nat → Reader (List (List Part))
  | 0 => fault "too deep"
  | fuel + 1 => do
    let t := (← upcoming).plain
    match t with
    | .word =>
      let w ← wordParts fuel false
      return w :: (← words fuel)
    | .newline | .sign ";" =>
      skip 1
      return []
    | t => unexpected t none

/-- What follows the first commands of a branch. -/
def otherwise : Nat → Reader Command
  | 0 => fault "too deep"
  | fuel + 1 => do
    match ← upcomingPastLines with
    | .sign "elif" =>
      skip 4
      branch fuel
    | .sign "else" =>
      skip 4
      let no ← list fuel .body []
      require "fi"
      return no
    | _ =>
      require "fi"
      return .nothing

/-- A branch after the word that begins it. -/
def branch : Nat → Reader Command
  | 0 => fault "too deep"
  | fuel + 1 => do
    let test ← list fuel .body []
    require "then"
    let yes ← list fuel .body []
    return .branch test yes (← otherwise fuel)

/-- The body of a loop. -/
def loopBody : Nat → Reader Command
  | 0 => fault "too deep"
  | fuel + 1 => do
    require "do"
    let body ← list fuel .body []
    require "done"
    return body

/-- The patterns of a choice, up to the parenthesis that ends them. -/
def patterns : Nat → Reader (List (List Part))
  | 0 => fault "too deep"
  | fuel + 1 => do
    let t := (← upcoming).plain
    let pattern ← if t == .word then wordParts fuel false else unexpected t (some (.sign ")"))
    match (← upcoming).plain with
    | .sign "|" =>
      skip 1
      return pattern :: (← patterns fuel)
    | .sign ")" =>
      skip 1
      return [pattern]
    | t => unexpected t (some (.sign ")"))

/-- The choices up to the word that ends them. -/
def choices : Nat → Reader (List Choice)
  | 0 => fault "too deep"
  | fuel + 1 => do
    let t ← upcomingPastLines
    if t == .sign "esac" then
      skip 4
      return []
    else
      if t == .sign "(" then skip 1
      let ps ← patterns fuel
      let body ← list fuel .inner []
      match ← upcomingPastLines with
      | .sign ";;" =>
        skip 2
        return .mk ps body :: (← choices fuel)
      | .sign "esac" =>
        skip 4
        return [.mk ps body]
      | t => unexpected t (some (.sign ";;"))

/-- A command; line ends before it have been read. -/
def command : Nat → Reader Command
  | 0 => fault "too deep"
  | fuel + 1 => do
    let t ← upcoming
    let compound := fun (r : Reader Command) => do
      let c ← r
      let rs ← redirections fuel
      return if rs.isEmpty then c else .redirected c rs
    match t with
    | .sign "if" =>
      skip 2
      compound (branch fuel)
    | .sign "while" | .sign "until" =>
      skip 5
      compound do
        let test ← list fuel .body []
        return .loop (t == .sign "until") test (← loopBody fuel)
    | .sign "for" =>
      skip 3
      let t := (← upcoming).plain
      let text := (← get).rest
      let name := text.takeWhile fun c => !isMeta c
      if t != .word || !isName name then fault "Bad for loop variable"
      skip name.length
      compound do
        let ws ←
          match ← upcomingPastLines with
          | .sign "in" =>
            skip 2
            words fuel
          | .sign ";" =>
            skip 1
            pure [[.variable ['@'] .value true]]
          | _ => pure [[.variable ['@'] .value true]]
        return .each name ws (← loopBody fuel)
    | .sign "case" =>
      skip 4
      let t := (← upcoming).plain
      let word ← if t == .word then wordParts fuel false else unexpected t (some .word)
      require "in"
      compound do return .choose word (← choices fuel)
    | .sign "(" =>
      skip 1
      compound do
        let body ← list fuel .body []
        require ")"
        return .subshell body
    | .sign "\x7b" =>
      skip 1
      compound do
        let body ← list fuel .body []
        require "\x7d"
        return body
    | .word | .redirection => simple fuel (← lineEndsAhead) [] [] []
    | t => unexpected t none

/-- The commands that bars join to a first one. -/
def piped : Nat → Command → Reader Command
  | 0, _ => fault "too deep"
  | fuel + 1, first => do
    if (← upcoming) == .sign "|" then
      skip 1
      let _ ← upcomingPastLines
      let next ← command fuel
      return .pipe first (← piped fuel next)
    else return first

/-- Commands with bars between them. -/
def pipeline : Nat → Reader Command
  | 0 => fault "too deep"
  | fuel + 1 => do
    let negated := (← upcoming) == .sign "!"
    if negated then skip 1
    let first ← command fuel
    let all ← piped fuel first
    return if negated then .negate all else all

/-- The commands that depend on how `first` ends. -/
def chained : Nat → Command → Reader Command
  | 0, _ => fault "too deep"
  | fuel + 1, first => do
    match ← upcoming with
    | .sign "&&" =>
      skip 2
      let _ ← upcomingPastLines
      let second ← pipeline fuel
      chained fuel (.ifHolds first second)
    | .sign "||" =>
      skip 2
      let _ ← upcomingPastLines
      let second ← pipeline fuel
      chained fuel (.ifFails first second)
    | _ => return first

/-- A list of commands, by those that have been read, last first. -/
def list : Nat → Extent → List Command → Reader Command
  | 0, _, _ => fault "too deep"
  | fuel + 1, extent, before => do
    let t ← if extent == .line then upcoming else upcomingPastLines
    let done := sequenceOf before
    match t with
    | .endOfFile => return done
    | .newline =>
      skip 1
      return done
    | t =>
      let mayEnd := extent == .inner || (extent == .body && !before.isEmpty)
      if mayEnd && endings.any fun s => t == .sign s then return done
      let lineEnds ← lineEndsAhead
      let first ← pipeline fuel
      let c ← chained fuel first
      match ← upcoming with
      | .sign "&" =>
        skip 1
        list fuel extent (background lineEnds c :: before)
      | .sign ";" =>
        skip 1
        list fuel extent (c :: before)
      | .newline => list fuel extent (c :: before)
      | .endOfFile => return sequenceOf (c :: before)
      | t => if extent == .line then unexpected t none else return sequenceOf (c :: before)

end

/-- The commands of the next line; none at the end of the script. -/
def nextLine : Reader (Option Command) := do
  if (← upcoming) == .endOfFile then return none
  let fuel := 16 * ((← get).rest.length + 4)
  return some (← list fuel .line [])

end LiterateSite.Shell.Script
