import LiterateSite.Settings.Settings

/-!
# Commands

* `CommandError`: why a command fails.
* `initProject`: write a project to begin with.
* `buildSite`: build the site that the settings describe.
-/

namespace LiterateSite.CommandLine

open Files Site

/-- Why a command fails. -/
inductive CommandError where
  | build (e : BuildError)
  | readSettings (path : Path)
  | parseSettings (path : Path)
  | createExamples
  | createTemplates
  | write (path : Path)
  deriving DecidableEq, Repr, Inhabited

def CommandError.message (e : CommandError) (explained : Explained := {}) : String :=
  match e with
  | .build e => e.message explained
  | .readSettings path => "Failed to read " ++ path.toString
  | .parseSettings path => "Failed to parse " ++ path.toString
  | .createExamples => "Failed to create examples directory"
  | .createTemplates => "Failed to create templates directory"
  | .write path => "Failed to write " ++ path.toString

/-- Steps of a command. -/
abbrev Commanding := ExceptT CommandError (StateM Session)

/-- A step of a build within a command. -/
def ofBuilding {α : Type} (b : Building α) : Commanding α := fun s =>
  let (r, s) := b s
  (r.mapError .build, s)

/-- Report an event. -/
def report (e : Event) : Commanding Unit := modify fun s => { s with events := s.events ++ [e] }

/-! ## A project to begin with -/

/-- A text of lines, each with its end. -/
def textOf (lines : List String) : List Char := lines.flatMap fun line => line.toList ++ ['\n']

/-- The settings of a new project. -/
def newSettings : List Char := textOf
  ["# Exemplar Configuration",
    "",
    "[site]",
    "# Site title",
    "title = \"Examples\"",
    "",
    "# One subdirectory per example, holding \x7bid\x7d/\x7bid\x7d.js",
    "examples_dir = \"examples\"",
    "",
    "# Output directory for the built site",
    "output_dir = \"public\"",
    "",
    "# Templates overriding the built-in pages",
    "templates_dir = \"templates\"",
    "",
    "# Explicit example order, one id per line",
    "# manifest = \"examples.txt\"",
    "",
    "[source]",
    "extension = \"js\"",
    "language = \"javascript\"",
    "",
    "# Leading lines reserved for the page description",
    "header_lines = 0",
    "",
    "[runner]",
    "program = \"deno\"",
    "args = [\"run\", \"--allow-read\"]",
    "",
    "[style]",
    "# tokyonight-night or github",
    "theme = \"tokyonight-night\"",
    "minify = true"]

/-- The example of a new project. -/
def newExample : List Char := textOf
  ["// Printing is the smallest complete program",
    "",
    "// \x60console.log\x60 writes a line to standard output",
    "console.log(\"hello world\")",
    "",
    "// Standard error is captured into the same transcript",
    "console.error(\"goodbye\")"]

/-- Create a directory and those that it is in. -/
def makeDirectory (p : Path) (e : CommandError) : Commanding Unit := do
  let (t, r) := (← get).files.createDirAll p
  modify fun s => { s with files := t }
  match r with
  | .ok () => return ()
  | .error _ => throw e

/-- Write a file. A file that is there is kept unless it is to be overwritten. -/
def place (p : Path) (content : List Char) (overwrite : Bool) : Commanding Unit := do
  let t := (← get).files
  if t.exists p && !overwrite then report (.alreadyThere p)
  else
    match t.write p (Text.Utf8.encode content) with
    | .ok t =>
      modify fun s => { s with files := t }
      report (.created p)
    | .error _ => throw (.write p)

/-- Write the settings, an example and the templates of a new project. -/
def scaffold (config : Path) (overwrite : Bool) : Commanding Unit := do
  let root := Path.ofString "."
  place (root.join config) newSettings overwrite
  let hello := (root.join (Path.ofString "examples")).join (Path.ofString "hello")
  makeDirectory hello .createExamples
  place (hello.join (Path.ofString "hello.js")) newExample overwrite
  let templates := root.join (Path.ofString "templates")
  makeDirectory templates .createTemplates
  Template.builtins.forM fun (name, source) =>
    place (templates.join (Path.ofString name)) source overwrite

/-- Write a project to begin with. -/
def initProject (config : Path) (overwrite : Bool) : Commanding Unit := do
  report .initializing
  scaffold config overwrite
  report .initialized
  report .nextStep

/-! ## Building -/

/-- The settings of a file, or what holds without a file. -/
def loadSettings (p : Path) : Commanding Settings.Project := do
  let t := (← get).files
  if !t.exists p then
    report (.noConfig p)
    return {}
  match t.readText p with
  | .error _ => throw (.readSettings p)
  | .ok text =>
    match Settings.Project.read? text with
    | none => throw (.parseSettings p)
    | some settings =>
      report (.loadedConfig p)
      return settings

/-- Build the site that the settings describe. -/
def buildSite (config : Path) (output : Option Path) (minify : Option Bool) :
    Commanding BuildResult := do
  report .building
  let settings ← loadSettings config
  let result ← ofBuilding do
    let builder ← openBuilder (settings.configFor output minify) settings.command.runner
    builder.build
  report (.builtPages result.pages result.executed result.cached)
  report (.outputAt result.output)
  return result

end LiterateSite.CommandLine
