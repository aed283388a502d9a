import LiterateSite.Files.Access
import LiterateSite.Shell.Command
import LiterateSite.Text.Number

/-!
# The state of a shell

* `Chunk`: what a command writes at once, to its output or to its errors.
* `Flow`: how a command ends.
* `State`: variables, functions, arguments, files and input.
* `State.fail`: end a script with a complaint.
-/

namespace LiterateSite.Shell

open Files

/-- What a command writes at once. -/
structure Chunk where
  /-- Written to the errors and not to the output. -/
  toErrors : Bool
  bytes : List UInt8
  deriving DecidableEq, Repr, Inhabited

/-- How a command ends. -/
inductive Flow where
  | next
  /-- The whole script ends. -/
  | exit
  /-- A signal ends the script. -/
  | killed (signal : Nat)
  | leaveLoop
  | nextRound
  | leaveFunction
  deriving DecidableEq, Repr, Inhabited

/-- The state of a shell. -/
structure State where
  files : Tree
  /-- What the script goes by. -/
  name : List Char
  arguments : List (List Char)
  bindings : List (List Char × List Char) := []
  /-- The variables that programs see. -/
  exported : List (List Char) := []
  functions : List (List Char × Command) := []
  /-- How the last command ended. -/
  status : Nat := 0
  /-- How the last command ended whose output has become a part of a word. -/
  outputStatus : Option Nat := none
  input : List UInt8 := []
  /-- A command that fails ends the script. -/
  strict : Bool := false
  /-- A variable that is not set ends the script. -/
  demanding : Bool := false
  /-- What runs when the script ends. -/
  atExit : Option (List Char) := none
  /-- How many line ends the script has. -/
  lineEnds : Nat := 0
  /-- The line of the command that runs. -/
  line : Nat := 1
  /-- The command or file, if any, that the text which runs has been read by. -/
  reader : Option (List Char) := none
  deriving Inhabited

/-- What a command leaves. -/
structure Result where
  state : State
  chunks : List Chunk := []
  flow : Flow := .next
  deriving Inhabited

/-- A result after chunks that have been written before it. -/
def Result.after (r : Result) (chunks : List Chunk) : Result := { r with chunks := chunks ++ r.chunks }

namespace State

/-- The path of the directory that the script is in. -/
def here (st : State) : List Char :=
  if st.files.workDir.isEmpty then ['/'] else st.files.workDir.reverse.flatMap fun n => '/' :: n.toText

/-- The value of a variable that has a name. -/
def named? (st : State) (name : List Char) : Option (List Char) :=
  match st.bindings.lookup name with
  | some value => some value
  | none =>
    match String.ofList name with
    | "PWD" => some st.here
    | "IFS" => some [' ', '\t', '\n']
    | _ => none

/-- The value of a variable that is set. -/
def lookup? (st : State) (name : List Char) : Option (List Char) :=
  match name with
  | ['0'] => some st.name
  | ['#'] => some (toString st.arguments.length).toList
  | ['?'] => some (toString st.status).toList
  | ['$'] => some ['2']
  | ['@'] | ['*'] =>
    if st.arguments.isEmpty then none else some (st.arguments.intersperse [' ']).flatten
  | name =>
    if name.head?.any Char.isDigit then
      st.arguments[(Text.decimalNumber name) - 1]?
    else st.named? name

/-- The value of a variable; one that is not set is empty. -/
def lookup (st : State) (name : List Char) : List Char := (st.lookup? name).getD []

def assign (st : State) (name value : List Char) : State :=
  { st with bindings := (name, value) :: st.bindings.filter fun (known, _) => known != name }

/-- What outlives a process within the script: its files, what it has left of the input, and how it
ended. -/
def adopt (st inner : State) : State :=
  { st with
    files := { inner.files with workDir := st.files.workDir }
    input := inner.input
    status := inner.status }

/-- A complaint of the shell, which names the script and the line. -/
def complaint (st : State) (text : List Char) : List Char :=
  st.name ++ ": ".toList ++ (toString st.line).toList ++ ": ".toList ++ text ++ ['\n']

/-- A complaint about the text that runs, which also names what has read it. -/
def complaintWithin (st : State) (text : List Char) : List Char :=
  match st.reader with
  | some r => st.complaint (r ++ ": ".toList ++ text)
  | none => st.complaint text

end State

/-- The end of a command that writes bytes. -/
def emit (st : State) (bytes : List UInt8) : Result :=
  { state := { st with status := 0 }, chunks := if bytes.isEmpty then [] else [⟨false, bytes⟩] }

/-- The end of a command that writes nothing. -/
def finish (st : State) (status : Nat) : Result := { state := { st with status } }

/-- A result that writes text to the errors. -/
def complain (st : State) (text : List Char) (status : Nat := 1) : Result :=
  { state := { st with status }, chunks := [⟨true, Text.Utf8.encode text⟩] }

/-- End the script with a complaint. -/
def State.fail (st : State) (text : List Char) : Result :=
  { complain st (st.complaintWithin text) 2 with flow := .exit }

/-- The bytes written to the output. -/
def outputOf (chunks : List Chunk) : List UInt8 :=
  (chunks.filter fun c => !c.toErrors).flatMap Chunk.bytes

/-- What is written to the errors. -/
def errorsOf (chunks : List Chunk) : List Chunk := chunks.filter Chunk.toErrors

end LiterateSite.Shell
