import LiterateSite.Site.Session
import LiterateSite.Template.Page

/-!
# Templates of a site

A directory may hold templates that stand for the built-in ones, and further ones. A file of it is
read when a page first takes its template; from then on its source is known, whatever becomes of the
file.

* `Templates`: the directory, the built-in templates that it overrides, and what has been read of it.
* `Templates.known?`, `Templates.source`: the source of a template.
* `openTemplates`: look at the directory.
-/

namespace LiterateSite.Site

open Files

/-- Where the templates of a site come from. -/
structure Templates where
  directory : Option Path := none
  /-- The built-in templates that files of the directory stand for. -/
  overridden : List String := []
  /-- The sources of the templates that have been loaded before, by their names. -/
  loaded : List (List Char × List Char) := []
  deriving DecidableEq, Repr, Inhabited

/-- The name of a template leads to a file of the directory: no part of it begins with a dot or
holds a backslash. -/
def isTemplateName (name : List Char) : Bool :=
  (Path.split name).all fun part => part.head? != some '.' && !part.contains '\\'

/-- The source of a template in a directory. -/
def sourceIn (t : Tree) (directory : Path) : Template.Source := fun name =>
  if isTemplateName name then
    match t.readText ((Path.split name).foldl (fun p part => p.join ⟨part⟩) directory) with
    | .ok source => .ok source
    | .error .notFound => .error .notFound
    | .error _ => .error .invalidOperation
  else .error .notFound

/-- The source of a built-in template that is not overridden. -/
def Templates.builtin? (ts : Templates) (name : List Char) : Option (List Char) :=
  if ts.overridden.any fun known => known.toList == name then none else Template.builtin? name

/-- The source of a template for which no file is read: a built-in one, or one that has been loaded
before. -/
def Templates.known? (ts : Templates) (name : List Char) : Option (List Char) :=
  (ts.builtin? name).or (ts.loaded.lookup name)

/-- The source of a template: the one that is known, or else one of the directory. -/
def Templates.source (ts : Templates) (t : Tree) : Template.Source := fun name =>
  match ts.known? name, ts.directory with
  | some source, _ => .ok source
  | none, some directory => sourceIn t directory name
  | none, none => .error .notFound

/-- The built-in templates that files of a directory stand for. -/
def overriddenIn (t : Tree) (directory : Path) : List String :=
  (Template.builtins.map (·.1)).filter fun name => t.isFile (directory.join (Path.ofString name))

/-- The templates of a directory. -/
def templatesIn (directory : Path) : Building Templates := do
  let overridden := overriddenIn (← Building.files) directory
  overridden.forM fun name =>
    Building.report (.usingTemplate (directory.join (Path.ofString name)))
  return { directory := some directory, overridden }

/-- The templates of a site that may have a directory of its own. -/
def openTemplates : Option Path → Building Templates
  | none => return {}
  | some directory => do
    if (← Building.files).isDir directory then
      Building.report (.loadingTemplates directory)
      templatesIn directory
    else throw (.config (.noTemplates directory))

end LiterateSite.Site
