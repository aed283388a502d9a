import LiterateSite.Shell.Builtin
import LiterateSite.Shell.Field
import LiterateSite.Shell.Reader
import LiterateSite.Shell.Toolbox

/-!
# Running scripts

* `expand`: the fields that words expand to.
* `run`: what a command does.
* `runScript`: what a whole script does.
-/

namespace LiterateSite.Shell

open Files Text

/-- Text without line ends at its end. -/
def dropNewlines (chars : List Char) : List Char := dropEndWhile (· == '\n') chars

/-- In a strict script a failure is the end. -/
def Result.strictly (r : Result) : Result :=
  if r.state.strict && r.state.status != 0 && r.flow == .next then { r with flow := .exit } else r

/-- Where the output and the errors of a command go. -/
inductive Sink where
  | output
  | errors
  | file (path : Path) (append : Bool)
  deriving DecidableEq, Repr, Inhabited

/-- Write bytes to the end of a file. -/
def appendTo (t : Tree) (p : Path) (bytes : List UInt8) : Except IoError Tree :=
  match t.read p with
  | .ok old => t.write p (old ++ bytes)
  | .error .notFound => t.write p bytes
  | .error e => .error e

/-- The sink that takes everything and keeps nothing. -/
def nullPath : Path := ⟨"/dev/null".toList⟩

/-- Let chunks go to where output and errors go: what is left of them, and the files. -/
def deliver (out err : Sink) : List Chunk → Tree → List Chunk × Tree
  | [], t => ([], t)
  | c :: rest, t =>
    match if c.toErrors then err else out with
    | .output =>
      let (cs, t) := deliver out err rest t
      ({ c with toErrors := false } :: cs, t)
    | .errors =>
      let (cs, t) := deliver out err rest t
      ({ c with toErrors := true } :: cs, t)
    | .file p _ =>
      if p == nullPath then deliver out err rest t
      else deliver out err rest ((appendTo t p c.bytes).toOption.getD t)

/-- The places of output and errors while redirections are read. -/
structure Sinks where
  out : Sink := .output
  err : Sink := .errors
  /-- The input has been given. -/
  fed : Bool := false
  deriving DecidableEq, Repr, Inhabited

/-- The sinks with another one for a file descriptor. -/
def Sinks.point (s : Sinks) (fd : Nat) (sink : Sink) : Sinks :=
  if fd == 1 then { s with out := sink } else if fd == 2 then { s with err := sink } else s

/-- Why a file cannot be opened or created. -/
def openingError (missing : String) : IoError → List Char
  | .notFound | .notDirectory => missing.toList
  | e => errorText e

/-- The names that get values. -/
def Assignment.name : Assignment → List Char
  | .mk name _ => name

/-- The variables that programs see. -/
def State.visible (st : State) : List (List Char × List Char) :=
  st.bindings.filter fun (name, _) => st.exported.contains name

/-- The variables as they were before, for some names. -/
def State.restore (st before : State) (names : List (List Char)) : State :=
  { st with
    exported := before.exported
    bindings := (before.bindings.filter fun (name, _) => names.contains name)
      ++ st.bindings.filter fun (name, _) => !names.contains name }

mutual

/-- The pieces that a part of a word expands to, and what is written on the way. -/
def part : Nat → Part → State → List Piece × Result
  | 0, _, st => ([], { state := st })
  | fuel + 1, p, st =>
    let piece := fun (chars : List Char) (quoted : Bool) => (Piece.plain chars).expandedTo quoted
    match p with
    | .literal chars quoted => ([if quoted then .whole chars else .plain chars], { state := st })
    | .variable ['@'] .value quoted =>
      ((st.arguments.map fun a => piece a quoted).intersperse .gap, { state := st })
    | .variable ['*'] .value false =>
      ((st.arguments.map fun a => piece a false).intersperse .gap, { state := st })
    | .variable name use quoted =>
      let (ps, r) := valueOf fuel name use st
      (ps.map (Piece.expandedTo quoted), r)
    | .number expression quoted =>
      let (text, r) := single fuel expression st
      if r.flow != .next then ([], r)
      else
        match calculate r.state text with
        | .ok (n, st) => ([piece (toString n).toList quoted], { r with state := st })
        | .error e => ([], (r.state.fail (e.message text)).after r.chunks)
    | .output body quoted =>
      let r := run fuel body { st with atExit := none }
      let text := dropNewlines (Utf8.decodeLossy (outputOf r.chunks))
      let st := { st.adopt r.state with status := st.status, outputStatus := some r.state.status }
      let flow :=
        match r.flow with
        | .killed n => Flow.killed n
        | _ => .next
      ([piece text quoted], { state := st, chunks := errorsOf r.chunks, flow })

/-- What a variable stands for. -/
def valueOf : Nat → List Char → Use → State → List Piece × Result
  | 0, _, _, st => ([], { state := st })
  | fuel + 1, name, use, st =>
    let value := st.lookup name
    let isSet := (st.lookup? name).isSome
    let missing := fun (filled : Bool) => !isSet || (filled && value.isEmpty)
    let answer := fun (chars : List Char) => ([Piece.plain chars], ({ state := st } : Result))
    let needed := st.demanding && !isSet && name != ['@'] && name != ['*']
    let refused := st.fail (name ++ ": parameter not set".toList)
    match use with
    | .value => if needed then ([], refused) else answer value
    | .length =>
      if needed then ([], refused) else answer (toString (Utf8.encode value).length).toList
    | .orElse filled word => if missing filled then parts fuel word st else answer value
    | .orAssign filled word =>
      if missing filled then
        let (text, r) := single fuel word st
        ([.plain text], { r with state := r.state.assign name text })
      else answer value
    | .orFail filled word =>
      if missing filled then
        let (text, r) := single fuel word st
        let text :=
          if !text.isEmpty then text
          else ("parameter not set" ++ (if filled then " or null" else "")).toList
        ([], (r.state.fail (name ++ ": ".toList ++ text)).after r.chunks)
      else answer value
    | .instead filled word => if missing filled then ([], { state := st }) else parts fuel word st
    | .without atEnd longest pattern =>
      let (pattern, r) := patternOf fuel pattern st
      ([.plain (Wildcard.cut atEnd longest pattern value)], r)
    | .bad => ([], st.fail "Bad substitution".toList)

/-- The pieces of a word. -/
def parts : Nat → List Part → State → List Piece × Result
  | 0, _, st => ([], { state := st })
  | _ + 1, [], st => ([], { state := st })
  | fuel + 1, p :: rest, st =>
    let (ps, r) := part fuel p st
    if r.flow != .next then (ps, r)
    else
      let (qs, r') := parts fuel rest r.state
      (ps ++ qs, r'.after r.chunks)

/-- The fields of words. -/
def expand : Nat → List (List Part) → State → List (List Char) × Result
  | 0, _, st => ([], { state := st })
  | _ + 1, [], st => ([], { state := st })
  | fuel + 1, w :: rest, st =>
    let (ps, r) := parts fuel w st
    if r.flow != .next then ([], r)
    else
      let found := (fields (r.state.lookup "IFS".toList) ps).flatMap (Field.expanded r.state.files)
      let (fs, r') := expand fuel rest r.state
      (found ++ fs, r'.after r.chunks)

/-- A word as one text. -/
def single : Nat → List Part → State → List Char × Result
  | 0, _, st => ([], { state := st })
  | fuel + 1, w, st =>
    let (ps, r) := parts fuel w st
    (Piece.text ps, r)

/-- A word as a pattern. -/
def patternOf : Nat → List Part → State → List Char × Result
  | 0, _, st => ([], { state := st })
  | fuel + 1, w, st =>
    let (ps, r) := parts fuel w st
    ((Piece.characters ps).pattern, r)

/-- Give values to variables. -/
def assignAll : Nat → List Assignment → State → Result
  | 0, _, st => { state := st }
  | _ + 1, [], st => { state := st }
  | fuel + 1, .mk name value :: rest, st =>
    let (text, r) := single fuel value st
    if r.flow != .next then r
    else (assignAll fuel rest (r.state.assign name text)).after r.chunks

/-- Follow redirections: the sinks, or a failure. Files that are written to are created. -/
def redirect : Nat → List Redirect → Sinks → State → Except Result (Sinks × State)
  | 0, _, sinks, st => .ok (sinks, st)
  | _ + 1, [], sinks, st => .ok (sinks, st)
  | fuel + 1, r :: rest, sinks, st =>
    let refuse := fun (st : State) (text : List Char) => .error (complain st (st.complaint text) 2)
    match r with
    | .duplicate fd target =>
      if target == 0 || fd == 0 then redirect fuel rest sinks st
      else if target > 2 then refuse st ((toString target).toList ++ ": Bad file descriptor".toList)
      else redirect fuel rest (sinks.point fd (if target == 1 then sinks.out else sinks.err)) st
    | .here body =>
      let (text, r) := single fuel body st
      redirect fuel rest { sinks with fed := true } { r.state with input := Utf8.encode text }
    | .input file =>
      let (name, r) := single fuel file st
      match readFile r.state.files name with
      | .ok bytes => redirect fuel rest { sinks with fed := true } { r.state with input := bytes }
      | .error e =>
        refuse r.state ("cannot open ".toList ++ name ++ ": ".toList ++ openingError "No such file" e)
    | .output fd append file =>
      let (name, r) := single fuel file st
      let p : Path := ⟨name⟩
      let sinks := sinks.point fd (.file p append)
      if p == nullPath then redirect fuel rest sinks r.state
      else
        match if append then appendTo r.state.files p [] else r.state.files.write p [] with
        | .ok files => redirect fuel rest sinks { r.state with files }
        | .error e =>
          refuse r.state ("cannot create ".toList ++ name ++ ": ".toList
            ++ openingError "Directory nonexistent" e)

/-- Run something under redirections. -/
def under : Nat → List Redirect → (State → Result) → State → Result
  | 0, _, _, st => { state := st }
  | fuel + 1, rs, body, st =>
    match redirect fuel rs {} st with
    | .error r => r
    | .ok (sinks, inner) =>
      let r := body inner
      let (chunks, files) := deliver sinks.out sinks.err r.chunks r.state.files
      let input := if sinks.fed then st.input else r.state.input
      { r with chunks, state := { r.state with files, input } }

/-- Run the commands of a text in the shell itself; `reader` is what has read the text. -/
def runText : Nat → Option (List Char) → List Char → State → Result
  | 0, _, _, st => { state := st }
  | fuel + 1, reader, text, st =>
    let r := runLines fuel { rest := text } { st with reader, lineEnds := Script.lineEndsIn text }
    { r with state := { r.state with reader := st.reader, lineEnds := st.lineEnds } }

/-- Run the commands of a text line by line. -/
def runLines : Nat → Script.Place → State → Result
  | 0, _, st => { state := st }
  | fuel + 1, place, st =>
    match Script.nextLine.run place with
    | .error e => { st with line := st.lineEnds - e.lineEnds + 1 }.fail e.message.toList
    | .ok (none, _) => { state := st }
    | .ok (some c, place) =>
      let a := run fuel c st
      if a.flow != .next then a else (runLines fuel place a.state).after a.chunks

/-- Run what has been asked to run at the end. -/
def conclude : Nat → Result → Result
  | 0, r => r
  | fuel + 1, r =>
    match r.flow, r.state.atExit with
    | .killed _, _ | _, none => r
    | _, some text =>
      let last := runText fuel none text { r.state with atExit := none }
      let status := if last.flow == .exit then last.state.status else r.state.status
      { (last.after r.chunks) with state := { last.state with status } }

/-- Run a program by its name. -/
def call : Nat → List Char → List (List Char) → State → Result
  | 0, _, _, st => { state := st }
  | fuel + 1, name, args, st =>
    match st.functions.lookup name with
    | some body =>
      let r := run fuel body { st with arguments := args }
      { r with
        state := { r.state with arguments := st.arguments }
        flow := if r.flow == .leaveFunction then .next else r.flow }
    | none =>
      match builtin? name with
      | some f => f args st
      | none => callProgram fuel name args st

/-- Run a program that is no command of the shell, or a command that runs others. -/
def callProgram : Nat → List Char → List (List Char) → State → Result
  | 0, _, _, st => { state := st }
  | fuel + 1, name, args, st =>
    match String.ofList name, args with
    | "exec", [] => finish st 0
    | "exec", name :: args =>
      let r := call fuel name args { st with reader := some "exec".toList }
      { r with flow := if r.flow == .next then .exit else r.flow }
    | "eval", args => runText fuel (some "eval".toList) (joinWords args) st
    | "command", [['-', 'v'], name] =>
      if (builtin? name).isSome then emit st (Utf8.encode (name ++ ['\n']))
      else if (tool? name).isSome then emit st (Utf8.encode ("/usr/bin/".toList ++ name ++ ['\n']))
      else finish st 127
    | "type", [name] =>
      if (builtin? name).isSome then emit st (Utf8.encode (name ++ " is a shell builtin\n".toList))
      else if (tool? name).isSome then
        emit st (Utf8.encode (name ++ " is /usr/bin/".toList ++ name ++ ['\n']))
      else { emit st (Utf8.encode (name ++ ": not found\n".toList)) with state := { st with status := 127 } }
    | "command", name :: args => call fuel name args { st with functions := [] }
    | ".", [] => finish st 0
    | ".", file :: _ =>
      if !file.contains '/' then st.fail (".: ".toList ++ file ++ ": not found".toList)
      else
        match st.files.read ⟨file⟩ with
        | .ok bytes =>
          let r := runText fuel (some file) (Utf8.decodeLossy bytes) st
          { r with flow := if r.flow == .leaveFunction then .next else r.flow }
        | .error e =>
          st.fail (".: cannot open ".toList ++ file ++ ": ".toList ++ openingError "No such file" e)
    | "sh", args =>
      let r := script fuel args st.visible st.files st.input
      { state := st.adopt r.state, chunks := r.chunks }
    | _, _ =>
      match tool? name with
      | some f => f args st
      | none =>
        let refuse := fun (text : String) (status : Nat) =>
          complain st (st.complaintWithin (name ++ ": ".toList ++ text.toList)) status
        if name.isEmpty then refuse "Permission denied" 127
        else if name.contains '/' && st.files.exists ⟨name⟩ then refuse "Permission denied" 126
        else refuse "not found" 127

/-- What a command does. -/
def run : Nat → Command → State → Result
  | 0, _, st => { state := st }
  | fuel + 1, c, st =>
    match c with
    | .nothing => { state := st }
    | .simple assignments words redirects lineEnds =>
      let (fs, r) := expand fuel words
        { st with line := st.lineEnds - lineEnds + 1, outputStatus := none }
      if r.flow != .next then r
      else
        let r' :=
          match fs with
          | [] =>
            under fuel redirects
              (fun st =>
                let r := assignAll fuel assignments st
                if r.flow != Flow.next then r
                else { r with state := { r.state with status := r.state.outputStatus.getD 0 } }) r.state
          | name :: args =>
            under fuel redirects
              (fun st =>
                let r := assignAll fuel assignments st
                if r.flow != Flow.next then r
                else
                  let names := assignments.map Assignment.name
                  if isSpecialBuiltin name then (call fuel name args r.state).after r.chunks
                  else
                    let seen := { r.state with exported := names ++ r.state.exported }
                    let called := (call fuel name args seen).after r.chunks
                    if names.isEmpty then called
                    else { called with state := called.state.restore st names }) r.state
        (r'.after r.chunks).strictly
    | .redirected body redirects => under fuel redirects (run fuel body) st
    | .pipe first second =>
      let a := run fuel first { st with atExit := none }
      let b := run fuel second
        { st.adopt a.state with input := outputOf a.chunks, atExit := none, status := st.status }
      ({ state := { st.adopt b.state with input := a.state.input }
         chunks := errorsOf a.chunks ++ b.chunks
         flow := match b.flow with
           | .killed n => .killed n
           | _ => .next } : Result).strictly
    | .negate body =>
      let r := run fuel body { st with strict := false }
      { r with state := { r.state with strict := st.strict, status := if r.state.status == 0 then 1 else 0 } }
    | .sequence first second =>
      let a := run fuel first st
      if a.flow != .next then a else (run fuel second a.state).after a.chunks
    | .ifHolds first second =>
      let a := condition fuel first st
      if a.flow != .next || a.state.status != 0 then a else (run fuel second a.state).after a.chunks
    | .ifFails first second =>
      let a := condition fuel first st
      if a.flow != .next || a.state.status == 0 then a else (run fuel second a.state).after a.chunks
    | .branch test yes no =>
      let a := condition fuel test st
      if a.flow != .next then a
      else if a.state.status == 0 then (run fuel yes { a.state with status := 0 }).after a.chunks
      else (run fuel no { a.state with status := 0 }).after a.chunks
    | .loop untilHolds test body =>
      let a := condition fuel test st
      if a.flow != .next then a
      else if (a.state.status == 0) == untilHolds then
        { a with state := { a.state with status := st.status } }
      else
        let b := (run fuel body { a.state with status := 0 }).after a.chunks
        match b.flow with
        | .next | .nextRound => (run fuel c b.state).after b.chunks
        | .leaveLoop => { b with flow := .next }
        | _ => b
    | .each name words body =>
      let (fs, r) := expand fuel words st
      if r.flow != .next then r else (rounds fuel name fs body r.state).after r.chunks
    | .choose word choices =>
      let (text, r) := single fuel word st
      if r.flow != .next then r else (choice fuel text choices r.state).after r.chunks
    | .subshell body =>
      let r := conclude fuel (run fuel body { st with atExit := none })
      ({ state := st.adopt r.state
         chunks := r.chunks
         flow := match r.flow with
           | .killed n => .killed n
           | _ => .next } : Result).strictly
    | .define name body =>
      let others := st.functions.filter fun (known, _) => known != name
      finish { st with functions := (name, body) :: others } 0

/-- A command whose failure is not one of the script. -/
def condition : Nat → Command → State → Result
  | 0, _, st => { state := st }
  | fuel + 1, c, st =>
    let r := run fuel c { st with strict := false }
    { r with state := { r.state with strict := st.strict } }

/-- Run a command for each of some values. -/
def rounds : Nat → List Char → List (List Char) → Command → State → Result
  | 0, _, _, _, st => { state := st }
  | _ + 1, _, [], _, st => { state := st }
  | fuel + 1, name, value :: rest, body, st =>
    let r := run fuel body (st.assign name value)
    match r.flow with
    | .next | .nextRound => (rounds fuel name rest body r.state).after r.chunks
    | .leaveLoop => { r with flow := .next }
    | _ => r

/-- Run the commands of the first choice with a pattern that covers a text. -/
def choice : Nat → List Char → List Choice → State → Result
  | 0, _, _, st => { state := st }
  | _ + 1, _, [], st => finish st 0
  | fuel + 1, text, .mk patterns body :: rest, st =>
    let (ps, r) := patternsOf fuel patterns st
    if r.flow != .next then r
    else if ps.any fun p => Wildcard.covers p text then (run fuel body r.state).after r.chunks
    else (choice fuel text rest r.state).after r.chunks

/-- Words, each as a pattern. -/
def patternsOf : Nat → List (List Part) → State → List (List Char) × Result
  | 0, _, st => ([], { state := st })
  | _ + 1, [], st => ([], { state := st })
  | fuel + 1, w :: rest, st =>
    let (text, r) := patternOf fuel w st
    if r.flow != .next then ([], r)
    else
      let (texts, r') := patternsOf fuel rest r.state
      (text :: texts, r'.after r.chunks)

/-- Run a script: after `-c` its text, or else a file. -/
def script : Nat → List (List Char) → List (List Char × List Char) → Tree → List UInt8 → Result
  | 0, _, _, t, input => { state := { files := t, name := [], arguments := [], input } }
  | fuel + 1, args, bindings, t, input =>
    let switches := args.takeWhile fun a => a.head? == some '-'
    let args := args.drop switches.length
    let has := fun (c : Char) => switches.any fun s => s.contains c
    let start := fun (text name : List Char) (arguments : List (List Char)) =>
      conclude fuel (runText fuel none text
        { files := t, name, arguments, input, bindings, exported := bindings.map (·.1)
          strict := has 'e', demanding := has 'u' })
    let sh := "sh".toList
    let refuse := fun (text : List Char) =>
      complain { files := t, name := sh, arguments := [], input } ("sh: 0: ".toList ++ text ++ ['\n']) 2
    if has 'c' then
      match args with
      | text :: rest => start text (rest.headD sh) (rest.drop 1)
      | [] => refuse "-c requires an argument".toList
    else
      match args with
      | file :: rest =>
        match t.read ⟨file⟩ with
        | .ok bytes => start (Utf8.decodeLossy bytes) file rest
        | .error e =>
          refuse ("cannot open ".toList ++ file ++ ": ".toList ++ openingError "No such file" e)
      | [] => start (Utf8.decodeLossy input) sh []

end

/-- How many steps a script may take within each other. -/
def maxSteps : Nat := 100000

/-- What a script does, by the arguments of the shell. -/
def runScript (args : List (List Char)) (t : Tree) : Result := script maxSteps args [] t []

end LiterateSite.Shell
