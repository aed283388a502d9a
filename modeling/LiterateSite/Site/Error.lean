import LiterateSite.Files.Access
import LiterateSite.Highlight.Grammar
import LiterateSite.Template.Error

/-!
# Errors of a build

* `RunError`: an example does not run.
* `BuildError`: a build ends early.
* `Explained`: what the libraries say of their failures, which belongs to the texts of the errors.
-/

namespace LiterateSite.Site

open Files

/-- What a run asks of the system. -/
inductive RunStep where
  | start (program : String)
  /-- Set up a file for what the program writes, or read that file. -/
  | capture
  deriving DecidableEq, Repr, Inhabited

/-- An example does not run. -/
inductive RunError where
  /-- The system refuses a step of the run. -/
  | spawn (step : RunStep) (source : Path) (cause : IoError)
  | failed (program : String) (source : Path) (status : String) (output : List Char)
  deriving DecidableEq, Repr, Inhabited

def RunError.message : RunError → String
  | .spawn (.start program) source cause =>
    "Failed to start \x60" ++ program ++ "\x60 for " ++ source.toString ++ ": " ++ cause.message
  | .spawn .capture source cause =>
    "Failed to capture output of " ++ source.toString ++ ": " ++ cause.message
  | .failed program source status output =>
    "\x60" ++ program ++ "\x60 exited with " ++ status ++ " while running " ++ source.toString
      ++ ":\n" ++ String.ofList output

/-- What is wrong with a configuration. -/
inductive ConfigError where
  | noTemplates (directory : Path)
  | noExamples (directory : Path)
  | manifestCount (manifest : Path) (listed : Nat) (directory : Path) (found : Nat)
  | nameNotText (path : Path)
  deriving DecidableEq, Repr, Inhabited

def ConfigError.message : ConfigError → String
  | .noTemplates directory => "Templates directory not found: " ++ directory.toString
  | .noExamples directory => "Examples directory not found: " ++ directory.toString
  | .manifestCount manifest listed directory found =>
    "Manifest " ++ manifest.toString ++ " lists " ++ toString listed ++ " examples but "
      ++ directory.toString ++ " contains " ++ toString found
  | .nameNotText path => "Example directory name is not valid UTF-8: " ++ path.toString

/-- A build ends early. -/
inductive BuildError where
  | config (e : ConfigError)
  | io (path : Path) (e : IoError)
  | execution (e : RunError)
  | render (e : Template.TemplateError)
  | highlight (e : Highlight.HighlightError)
  deriving DecidableEq, Repr, Inhabited

/-- What the libraries say of their failures. -/
structure Explained where
  /-- Why the text of a pattern is none. -/
  pattern : String → String := fun _ => ""
  /-- Why a template is not rendered. -/
  template : Template.TemplateError → String := fun _ => ""

/-- The text of an error. -/
def BuildError.message (e : BuildError) (explained : Explained := {}) : String :=
  match e with
  | .config e => "Invalid configuration: " ++ e.message
  | .io path e => "I/O error at " ++ path.toString ++ ": " ++ e.message
  | .execution e => e.message
  | .render e => "Failed to render template: " ++ explained.template e
  | .highlight e => "Failed to highlight: " ++ e.message explained.pattern

end LiterateSite.Site
