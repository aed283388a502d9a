import LiterateSite.Shell.Toolbox

/-!
# Commands of the shell itself

* `builtin?`: a command by its name. Those that run other commands are not among them.
-/

namespace LiterateSite.Shell

open Files Text

namespace Builtin

/-- The names of signals. -/
def signals : List (String × Nat) :=
  [("HUP", 1), ("INT", 2), ("QUIT", 3), ("ILL", 4), ("TRAP", 5), ("ABRT", 6), ("BUS", 7), ("FPE", 8),
    ("KILL", 9), ("USR1", 10), ("SEGV", 11), ("USR2", 12), ("PIPE", 13), ("ALRM", 14), ("TERM", 15)]

/-- A signal by its name or number. -/
def signal? (text : List Char) : Option Nat :=
  match signals.lookup (String.ofList text) with
  | some n => some n
  | none => if text.isEmpty || !text.all Char.isDigit then none else some (decimalNumber text)

def killUsage : List Char :=
  "kill: Usage: kill [-s sigspec | -signum | -sigspec] [pid | job]... or\nkill -l [exitstatus]".toList

/-- Send the script a signal, if it is the process that is meant. -/
def send (signal : Nat) (processes : List (List Char)) (st : State) : Result :=
  match processes with
  | [] => complain st (st.complaint killUsage) 2
  | p :: _ =>
    if p == st.lookup ['$'] then
      if signal == 0 then finish st 0 else { state := st, flow := .killed signal }
    else if (integer? p).isSome then complain st (st.complaint "kill: No such process\n".toList)
    else complain st (st.complaint ("kill: Illegal number: ".toList ++ p)) 2

/-- Send a process a signal. -/
def kill : Tool := fun args st =>
  match args with
  | ['-', 'l'] :: n :: _ =>
    match signals.find? fun (_, m) => toString m == String.ofList n with
    | some (name, _) => emit st (Utf8.ofString (name ++ "\n"))
    | none => complain st (st.complaint ("kill: Illegal number: ".toList ++ n)) 2
  | ['-', 's'] :: name :: rest =>
    match signal? name with
    | some n => send n rest st
    | none => complain st (st.complaint ("kill: invalid signal number or name: ".toList ++ name)) 2
  | ('-' :: name) :: rest =>
    match signal? name with
    | some n => send n rest st
    | none => complain st (st.complaint ("kill: Illegal option -".toList ++ name.take 1)) 2
  | args => send 15 args st

/-- The words of a line for so many variables; the last takes what is left. -/
def spread (separators : List Char) : List (List Char) → List Char → State → State
  | [], _, st => st
  | [name], chars, st => st.assign name (dropEndWhile isSoft chars)
  | name :: more, chars, st =>
    let word := chars.takeWhile fun c => !separators.contains c
    let rest := (chars.drop word.length).dropWhile isSoft
    let rest :=
      match rest with
      | c :: after => if separators.contains c then after.dropWhile isSoft else rest
      | [] => []
    spread separators more rest (st.assign name word)
where
  /-- A separator of which several in a row count as one. -/
  isSoft (c : Char) : Bool := separators.contains c && (c == ' ' || c == '\t' || c == '\n')

/-- Read a line of the input into variables. -/
def read : Tool := fun args st =>
  let names := args.filter fun n => n.head? != some '-'
  if names.isEmpty then complain st (st.complaint "read: arg count".toList) 2
  else
    let line := st.input.takeWhile (· != 10)
    let rest := st.input.drop (line.length + 1)
    let separators := st.lookup "IFS".toList
    let chars := (Utf8.decodeLossy line).dropWhile (spread.isSoft separators)
    let ended := line.length < st.input.length
    finish (spread separators names chars { st with input := rest }) (if ended then 0 else 1)

/-- The status that the arguments of `exit` or `return` name, or what is wrong with them. -/
def statusOf (command : String) (args : List (List Char)) (st : State) : Except (List Char) Nat :=
  match args with
  | [] => .ok st.status
  | n :: _ =>
    if n.isEmpty || !n.all Char.isDigit then
      .error (command.toList ++ ": Illegal number: ".toList ++ n)
    else .ok (decimalNumber n % 256)

/-- End the script with a complaint of a command. -/
def stop (st : State) (text : List Char) : Result :=
  { complain st (st.complaint text) 2 with flow := .exit }

/-- End the script or the function. -/
def leave (command : String) (flow : Flow) : Tool := fun args st =>
  match statusOf command args st with
  | .error text => stop st text
  | .ok status => { state := { st with status }, flow }

/-- Drop arguments of the script. -/
def shift : Tool := fun args st =>
  let n := (args.head?.map decimalNumber).getD 1
  if n > st.arguments.length then stop st "shift: can't shift that many".toList
  else finish { st with arguments := st.arguments.drop n } 0

/-- Switch an option by its letter. -/
def setOption (on : Bool) (st : State) (letter : Char) : Option State :=
  match letter with
  | 'e' => some { st with strict := on }
  | 'u' => some { st with demanding := on }
  | _ => if "abCfhmnvxIiVEsp".toList.contains letter then some st else none

/-- Switch options and set arguments. -/
def set : Tool
  | [], st => finish st 0
  | ['-', '-'] :: rest, st => finish { st with arguments := rest } 0
  | ('-' :: 'o' :: []) :: name :: rest, st =>
    match String.ofList name with
    | "errexit" => set rest { st with strict := true }
    | "nounset" => set rest { st with demanding := true }
    | _ => stop st ("set: Illegal option -o ".toList ++ name)
  | (sign :: letters) :: rest, st =>
    if sign == '-' || sign == '+' then
      match letters.foldlM (setOption (sign == '-')) st with
      | some st => set rest st
      | none =>
        let bad := letters.find? fun c => (setOption true st c).isNone
        stop st ("set: Illegal option -".toList ++ bad.toList)
    else finish { st with arguments := (sign :: letters) :: rest } 0
  | args, st => finish { st with arguments := args } 0

/-- Give values to variables, which programs see if they are exported. -/
def declare (command : String) (exported : Bool) : Tool
  | [], st => finish st 0
  | a :: rest, st =>
    let name := a.takeWhile (· != '=')
    let isName := name.head?.any (fun c => c.isAlpha || c == '_')
      && name.all fun c => c.isAlphanum || c == '_'
    if a.head? == some '-' then declare command exported rest st
    else if !isName then stop st ((command ++ ": ").toList ++ a ++ ": bad variable name".toList)
    else
      let st := if exported then { st with exported := name :: st.exported } else st
      declare command exported rest
        (match a.drop name.length with
          | _ :: value => st.assign name value
          | [] => st)

/-- Forget variables and functions. -/
def unset : Tool := fun args st =>
  let others := fun {α : Type} (pairs : List (List Char × α)) =>
    pairs.filter fun (name, _) => !args.contains name
  finish { st with bindings := others st.bindings, functions := others st.functions } 0

/-- Go to a directory. -/
def changeDirectory : Tool := fun args st =>
  match args with
  | [] => finish st 0
  | path :: _ =>
    match st.files.isDir ⟨path⟩, st.files.resolve ⟨path⟩ with
    | true, .ok l => finish { st with files := { st.files with workDir := l } } 0
    | _, _ => complain st (st.complaint ("cd: can't cd to ".toList ++ path)) 2

/-- What runs when the script ends. -/
def trap : Tool := fun args st =>
  match args with
  | action :: conditions =>
    if conditions.any fun c => c == "EXIT".toList || c == ['0'] then
      finish { st with atExit := if action == ['-'] then none else some action } 0
    else finish st 0
  | [] => finish st 0

end Builtin

open Builtin in
/-- A command of the shell by its name. -/
def builtin? (name : List Char) : Option Tool :=
  match String.ofList name with
  | ":" | "wait" | "umask" | "ulimit" | "alias" | "hash" | "jobs" => some fun _ st => finish st 0
  | "echo" => some echo
  | "kill" => some kill
  | "read" => some read
  | "exit" => some (leave "exit" .exit)
  | "return" => some (leave "return" .leaveFunction)
  | "break" => some fun _ st => { state := { st with status := 0 }, flow := .leaveLoop }
  | "continue" => some fun _ st => { state := { st with status := 0 }, flow := .nextRound }
  | "shift" => some shift
  | "set" => some set
  | "export" => some (declare "export" true)
  | "readonly" => some (declare "readonly" false)
  | "local" => some (declare "local" false)
  | "unset" => some unset
  | "cd" => some changeDirectory
  | "trap" => some trap
  | _ => none

/-- The commands after which values given before them stay. -/
def isSpecialBuiltin (name : List Char) : Bool :=
  [":", ".", "break", "continue", "eval", "exec", "exit", "export", "readonly", "return", "set",
    "shift", "trap", "unset"].contains (String.ofList name)

end LiterateSite.Shell
