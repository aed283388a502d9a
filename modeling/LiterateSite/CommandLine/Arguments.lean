import LiterateSite.Files.Path

/-!
# Command line arguments

* `Task`, `Invocation`: what the program is asked to do.
* `UsageError`: what is wrong with arguments.
* `Invocation.read`: the meaning of arguments.
-/

namespace LiterateSite.CommandLine

open Files

/-- What help is about. -/
inductive Topic where
  | program
  | init
  | build
  | help
  deriving DecidableEq, Repr, Inhabited

/-- What the program is asked to do. -/
inductive Task where
  /-- Write a project to begin with, over what is there if so asked. -/
  | init (overwrite : Bool)
  | build (output : Option Path) (minify : Option Bool)
  | help (topic : Topic)
  | version
  deriving DecidableEq, Repr, Inhabited

/-- A task with the options that every task has. -/
structure Invocation where
  config : Path := Path.ofString "exemplar.toml"
  verbose : Bool := false
  task : Task := .build none none
  deriving DecidableEq, Repr, Inhabited

/-- An option. -/
structure Switch where
  short : Option Char
  long : String
  /-- What its value is called, if it has one. -/
  value : Option String := none
  deriving DecidableEq, Repr, Inhabited

def Switch.display (s : Switch) : String :=
  match s.value with
  | some v => "--" ++ s.long ++ " <" ++ v ++ ">"
  | none => "--" ++ s.long

/-- What is wrong with arguments. -/
inductive UsageError where
  | unrecognizedCommand (name : String)
  | unexpectedArgument (argument : String)
  | missingValue (s : Switch)
  | unexpectedValue (value : String) (s : Switch)
  | repeated (s : Switch)
  deriving DecidableEq, Repr, Inhabited

def UsageError.message : UsageError → String
  | .unrecognizedCommand name => "unrecognized subcommand '" ++ name ++ "'"
  | .unexpectedArgument argument => "unexpected argument '" ++ argument ++ "' found"
  | .missingValue s => "a value is required for '" ++ s.display ++ "' but none was supplied"
  | .unexpectedValue value s =>
    "unexpected value '" ++ value ++ "' for '" ++ s.display ++ "' found; no more were expected"
  | .repeated s => "the argument '" ++ s.display ++ "' cannot be used multiple times"

/-- A command with its options and the commands within it. -/
structure Level where
  switches : List Switch
  commands : List String := []
  deriving DecidableEq, Repr, Inhabited

def configSwitch : Switch := ⟨some 'c', "config", some "CONFIG"⟩
def verboseSwitch : Switch := ⟨some 'v', "verbose", none⟩
def helpSwitch : Switch := ⟨some 'h', "help", none⟩
def versionSwitch : Switch := ⟨some 'V', "version", none⟩
def yesSwitch : Switch := ⟨some 'y', "yes", none⟩
def outputSwitch : Switch := ⟨some 'o', "output", some "OUTPUT"⟩
def noMinifySwitch : Switch := ⟨none, "no-minify", none⟩

def Level.program : Level :=
  ⟨[configSwitch, verboseSwitch, helpSwitch, versionSwitch], ["init", "build", "help"]⟩

def Level.init : Level := ⟨[yesSwitch, helpSwitch], []⟩

def Level.build : Level := ⟨[outputSwitch, noMinifySwitch, helpSwitch], []⟩

/-- The options given, with their values. -/
abbrev Given := List (Switch × String)

/-- Where the reading of arguments stands. -/
structure Cursor where
  given : Given := []
  /-- The last option that takes a value, with its value once there is one. It is noted when the
  next option is read, or at the end. -/
  pending : Option (Switch × Option String) := none
  /-- Two hyphens have been read: no more options. -/
  escaped : Bool := false
  deriving Repr, Inhabited

/-- What a list of arguments comes to. -/
inductive Outcome where
  | options (given : Given)
  /-- A command, with what has been read before it. -/
  | command (name : String) (rest : List String) (before : Cursor)
  | help
  | version
  deriving Repr, Inhabited

namespace Cursor

/-- The option that waits for its value. -/
def waiting? (c : Cursor) : Option Switch :=
  match c.pending with
  | some (s, none) => some s
  | _ => none

/-- Note an option. -/
def give (c : Cursor) (s : Switch) (value : String) : Except UsageError Cursor :=
  if c.given.any fun (known, _) => known == s then .error (.repeated s)
  else .ok { c with given := c.given ++ [(s, value)] }

/-- Note an option with its value, which may not be empty. -/
def giveValue (c : Cursor) (s : Switch) (value : String) : Except UsageError Cursor := do
  let c ← c.give s value
  if value.isEmpty then throw (.missingValue s) else return c

/-- Note the pending option, which has to have a value. -/
def settle (c : Cursor) : Except UsageError Cursor :=
  match c.pending with
  | some (s, some value) => { c with pending := none }.giveValue s value
  | some (s, none) => .error (.missingValue s)
  | none => .ok c

end Cursor

/-- An option that ends the reading. -/
def stops? (s : Switch) : Option Outcome :=
  if s == helpSwitch then some .help else if s == versionSwitch then some .version else none

/-- An option with a long name, after the hyphens. -/
def longOption (level : Level) (c : Cursor) (text : List Char) :
    Except UsageError (Outcome ⊕ Cursor) := do
  let name := text.takeWhile (· != '=')
  let value : Option String :=
    match text.drop name.length with
    | _ :: v => some (String.ofList v)
    | [] => none
  match level.switches.find? fun s => s.long.toList == name with
  | none => throw (.unexpectedArgument ("--" ++ String.ofList name))
  | some s =>
    match s.value, value with
    | some _, some v => return .inr (← (← c.settle).giveValue s v)
    | some _, none => return .inr { ← c.settle with pending := some (s, none) }
    | none, some v => throw (.unexpectedValue v s)
    | none, none =>
      let c ← c.settle
      match stops? s with
      | some outcome => return .inl outcome
      | none => return .inr (← c.give s "")

/-- Options with short names, after the hyphen. -/
def shortOptions (level : Level) : Cursor → List Char → Except UsageError (Outcome ⊕ Cursor)
  | c, [] => .ok (.inr c)
  | c, x :: rest =>
    match level.switches.find? fun s => s.short == some x with
    | none => .error (.unexpectedArgument (String.ofList ['-', x]))
    | some s => do
      let c ← c.settle
      match s.value, stops? s with
      | some _, _ =>
        if rest.isEmpty then return .inr { c with pending := some (s, none) }
        else
          let value := if rest.head? == some '=' then rest.drop 1 else rest
          return .inr (← c.giveValue s (String.ofList value))
      | none, some outcome => return .inl outcome
      | none, none => shortOptions level (← c.give s "") rest

/-- An argument that is no option. -/
def strayArgument (level : Level) (escaped : Bool) (argument : String) : UsageError :=
  if level.commands.isEmpty || (escaped && level.commands.contains argument) then
    .unexpectedArgument argument
  else .unrecognizedCommand argument

/-- Read the arguments of a command. -/
def readLevel (level : Level) : Cursor → List String → Except UsageError Outcome
  | c, [] => do return .options (← c.settle).given
  | c, argument :: rest =>
    let next := fun (r : Outcome ⊕ Cursor) =>
      match r with
      | .inl outcome => Except.ok outcome
      | .inr c => readLevel level c rest
    if c.escaped then .error (strayArgument level true argument)
    else if c.waiting?.isNone && level.commands.contains argument then
      .ok (.command argument rest c)
    else
      match argument.toList with
      | ['-', '-'] => readLevel level { c with escaped := true } rest
      | '-' :: '-' :: text =>
        match longOption level c text with
        | .error e => .error e
        | .ok r => next r
      | '-' :: x :: text =>
        match shortOptions level c (x :: text) with
        | .error e => .error e
        | .ok r => next r
      | _ =>
        match c.waiting? with
        | some s => next (.inr { c with pending := some (s, some argument) })
        | none => .error (strayArgument level false argument)

/-- What help on some commands is about. -/
def topic : List String → Except UsageError Topic
  | [] => .ok .program
  | [name] =>
    match name with
    | "init" => .ok .init
    | "build" => .ok .build
    | "help" => .ok .help
    | _ => .error (.unrecognizedCommand name)
  | name :: next :: _ =>
    if Level.program.commands.contains name then .error (.unrecognizedCommand next)
    else .error (.unrecognizedCommand name)

/-- The value of an option that has been given. -/
def Given.value? (given : Given) (s : Switch) : Option String := given.lookup s

/-- The task of a command. -/
def readCommand (name : String) (rest : List String) : Except UsageError Task := do
  match name with
  | "init" =>
    match ← readLevel .init {} rest with
    | .options given => return .init (given.value? yesSwitch).isSome
    | _ => return .help .init
  | "build" =>
    match ← readLevel .build {} rest with
    | .options given =>
      return .build ((given.value? outputSwitch).map Path.ofString)
        (if (given.value? noMinifySwitch).isSome then some false else none)
    | _ => return .help .build
  | _ => return .help (← topic rest)

/-- The meaning of arguments. -/
def Invocation.read (arguments : List String) : Except UsageError Invocation := do
  let base : Invocation := {}
  let withOptions := fun (given : Given) (task : Task) =>
    ({ config := ((given.value? configSwitch).map Path.ofString).getD base.config
       verbose := (given.value? verboseSwitch).isSome
       task } : Invocation)
  match ← readLevel .program {} arguments with
  | .options given => return withOptions given base.task
  | .command name rest before =>
    match ← readCommand name rest with
    | .help topic => return { base with task := .help topic }
    | task => return withOptions (← before.settle).given task
  | .help => return { base with task := .help .program }
  | .version => return { base with task := .version }

end LiterateSite.CommandLine
