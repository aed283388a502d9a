import LiterateSite.CommandLine.Commands
import LiterateSite.CommandLine.Help

/-!
# The program

* `Answer`: what a run of the program leaves.
* `runProgram`: what the program does for some arguments.
-/

namespace LiterateSite.CommandLine

open Files Site

/-- What a run of the program leaves. -/
structure Answer where
  files : Tree
  code : Nat := 0
  output : String := ""
  errors : String := ""
  events : List Event := []
  deriving Repr, Inhabited

/-- The command of a task; none if the task only prints. -/
def commandOf (config : Path) : Task → Option (Commanding Unit)
  | .init overwrite => some (initProject config overwrite)
  | .build output minify => some do
    let _ ← buildSite config output minify
    return ()
  | _ => none

/-- The events that are shown. -/
def shown (verbose : Bool) (events : List Event) : List Event :=
  events.filter fun e => verbose || e.level != .debug

/-- Carry out a task. What the libraries say of their failures is `explained`. -/
def carryOut (i : Invocation) (t : Tree) (explained : Explained := {}) : Answer :=
  match i.task, commandOf i.config i.task with
  | .help topic, _ => { files := t, output := helpText topic }
  | .version, _ => { files := t, output := versionText }
  | _, none => { files := t }
  | _, some command =>
    let (r, s) := command { files := t }
    let events := shown i.verbose s.events
    match r with
    | .ok () => { files := s.files, events }
    | .error e =>
      { files := s.files, events, code := 1, errors := "Error: " ++ e.message explained ++ "\n" }

/-- What the program does for some arguments. -/
def runProgram (arguments : List String) (t : Tree) (explained : Explained := {}) : Answer :=
  match Invocation.read arguments with
  | .error e => { files := t, code := 2, errors := "error: " ++ e.message ++ "\n" }
  | .ok i => carryOut i t explained

end LiterateSite.CommandLine
