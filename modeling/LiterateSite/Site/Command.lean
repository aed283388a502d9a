import LiterateSite.Shell.Run
import LiterateSite.Site.Session

/-!
# Running examples by a command

* `Command`: a program with its first arguments.
* `program?`: what a program does.
* `Command.runner`: runs a source in its directory; output and errors are one stream.
-/

namespace LiterateSite.Site

open Files Shell Text

/-- A program with the arguments that stand before the source. -/
structure Command where
  program : String := "deno"
  arguments : List String := ["run", "--allow-read"]
  deriving DecidableEq, Repr, Inhabited

/-- What a program does with arguments, in a file tree. -/
def program? (program : List Char) : Option (List (List Char) → Tree → Result) :=
  let start := fun (f : Tool) (args : List (List Char)) (t : Tree) =>
    f args { files := t, name := program, arguments := args }
  match String.ofList (programName program) with
  | "sh" | "dash" => some runScript
  | "echo" => some (start plainEcho)
  | name => (tool? name.toList).map start

/-- The names of signals. -/
def signalNames : List (Nat × String) :=
  [(1, "SIGHUP"), (2, "SIGINT"), (3, "SIGQUIT"), (4, "SIGILL"), (6, "SIGABRT"), (8, "SIGFPE"),
    (9, "SIGKILL"), (10, "SIGUSR1"), (11, "SIGSEGV"), (12, "SIGUSR2"), (13, "SIGPIPE"),
    (14, "SIGALRM"), (15, "SIGTERM")]

/-- How a program ended, unless it ended well. -/
def failure? (r : Result) : Option String :=
  match r.flow with
  | .killed n =>
    some ("signal: " ++ toString n ++ (match signalNames.lookup n with
      | some name => " (" ++ name ++ ")"
      | none => ""))
  | _ => if r.state.status == 0 then none else some ("exit status: " ++ toString r.state.status)

/-- The directory that a source is run in, if it is another than the current one, and the name that
it goes by there. -/
def placeOf (source : Path) : Option Path × Path :=
  match source.parent?, source.fileName? with
  | some directory, some file =>
    if directory.chars.isEmpty then (none, source) else (some directory, file)
  | _, _ => (none, source)

/-- The tree as it is seen from a directory. -/
def enter (t : Tree) (directory : Option Path) : Except IoError Tree :=
  match directory with
  | none => .ok t
  | some p =>
    match t.resolve p with
    | .error e => .error e
    | .ok l =>
      match t.get? l with
      | some .directory => .ok { t with workDir := l }
      | some _ => .error .notDirectory
      | none => .error .notFound

/-- Why a program cannot be started. A directory cannot be, and each directory of programs holds
itself and the one around it. -/
def startError (t : Tree) (program : List Char) : IoError :=
  if program.contains '/' then
    match t.stat ⟨program⟩ with
    | .error e => e
    | .ok _ => .permissionDenied
  else if program == ['.'] || program == ['.', '.'] then .permissionDenied
  else .notFound

namespace Command

/-- The command or the path of the source has a null character, which no program can be given. -/
def hasNull (c : Command) (source : Path) : Bool :=
  (source.chars :: c.program.toList :: c.arguments.map String.toList).any fun text =>
    text.contains '\x00'

/-- Run a source. -/
def start (c : Command) (t : Tree) (source : Path) : Except RunError (List UInt8) × Tree :=
  let (directory, file) := placeOf source
  if c.hasNull source then (.error (.spawn (.start c.program) source .badArgument), t)
  else match enter t directory with
  | .error e => (.error (.spawn (.start c.program) source e), t)
  | .ok inner =>
    match program? c.program.toList with
    | none => (.error (.spawn (.start c.program) source (startError inner c.program.toList)), t)
    | some f =>
      let r := f (c.arguments.map String.toList ++ [file.chars]) inner
      let output := r.chunks.flatMap Chunk.bytes
      let t' := { r.state.files with workDir := t.workDir }
      match failure? r with
      | none => (.ok output, t')
      | some status => (.error (.failed c.program source status (Utf8.decodeLossy output)), t')

/-- The runner that starts a command for each source. -/
def runner (c : Command) : Runner :=
  { run := fun t source =>
      let (result, files) := c.start t source
      { result, files, events := [.running c.program c.arguments source] } }

end Command

end LiterateSite.Site
