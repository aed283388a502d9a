import LiterateSite.Site.Error
import LiterateSite.Site.Event

/-!
# Sessions

* `Session`: the files, the events so far, the examples that have been run, and the templates that
  have been loaded.
* `Building`: steps of a build, which change a session and may fail.
* `Runner`: runs examples.
-/

namespace LiterateSite.Site

open Files

/-- The state of a build. -/
structure Session where
  files : Tree
  /-- What has been reported, in order. -/
  events : List Event := []
  /-- The sources that have been run, in order. -/
  runs : List Path := []
  /-- The sources of the templates that the build has loaded, by their names. -/
  loaded : List (List Char × List Char) := []
  deriving Repr, Inhabited

/-- Steps of a build. A failure keeps what has been done. -/
abbrev Building := ExceptT BuildError (StateM Session)

/-- What a run of an example leaves. -/
structure RunOutcome where
  result : Except RunError (List UInt8)
  files : Tree
  events : List Event := []

/-- Runs the source at a path. -/
structure Runner where
  run : Tree → Path → RunOutcome

namespace Building

/-- Report an event. -/
def report (e : Event) : Building Unit := modify fun s => { s with events := s.events ++ [e] }

/-- The files as they are. -/
def files : Building Tree := do return (← get).files

/-- Fail with an error of access to a path. -/
def orIo {α : Type} (p : Path) (r : Except IoError α) : Building α :=
  match r with
  | .ok a => pure a
  | .error e => throw (.io p e)

/-- Fail with an error of highlighting. -/
def orHighlight {α : Type} (r : Except Highlight.HighlightError α) : Building α :=
  match r with
  | .ok a => pure a
  | .error e => throw (.highlight e)

/-- Fail with an error of a template. -/
def orRender {α : Type} (r : Except Template.TemplateError α) : Building α :=
  match r with
  | .ok a => pure a
  | .error e => throw (.render e)

/-- Read a file. -/
def read (p : Path) : Building (List UInt8) := do orIo p ((← files).read p)

/-- Change the files by an access to a path. -/
def change (p : Path) (f : Tree → Except IoError Tree) : Building Unit := do
  let t ← orIo p (f (← files))
  modify fun s => { s with files := t }

/-- Write a file. -/
def write (p : Path) (content : List UInt8) : Building Unit := change p (·.write p content)

/-- Create a directory and those that it is in. -/
def createDirAll (p : Path) : Building Unit := do
  let (t, r) := (← files).createDirAll p
  modify fun s => { s with files := t }
  orIo p r

/-- Run the source at a path. -/
def run (runner : Runner) (source : Path) : Building (List UInt8) := do
  let outcome := runner.run (← files) source
  modify fun s =>
    { s with
      files := outcome.files, events := s.events ++ outcome.events, runs := s.runs ++ [source] }
  match outcome.result with
  | .ok output => return output
  | .error e => throw (.execution e)

end Building

end LiterateSite.Site
