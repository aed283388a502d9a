import LiterateSite.Settings.TomlReader
import LiterateSite.Site.Build
import LiterateSite.Site.Command

/-!
# Settings

The file that says what to build.

* `Project`: the sections of the file, with what holds if they do not say.
* `Project.read?`: the settings of a text; keys that have no meaning are passed over.
* `Project.configFor`: the configuration of a build.
-/

namespace LiterateSite.Settings

open Files

/-- What a file says. -/
structure Project where
  config : Site.Config := {}
  command : Site.Command := {}
  deriving DecidableEq, Repr, Inhabited

namespace Toml

def string? : Toml → Option String
  | .string chars => some (String.ofList chars)
  | _ => none

def nat? : Toml → Option Nat
  | .int n => if n < 0 then none else some n.toNat
  | _ => none

def bool? : Toml → Option Bool
  | .bool b => some b
  | _ => none

def strings? : Toml → Option (List String)
  | .array items => items.mapM string?
  | _ => none

def path? (v : Toml) : Option Path := v.string?.map Path.ofString

/-- The fields of a section. Without their names they stand in the order of `names`; a time has no
fields. -/
def fields? (names : List String) : Toml → Option Table
  | .table _ entries => some entries
  | .time => some []
  | .array items => some ((names.map String.toList).zip items)
  | .tables elements =>
    some ((names.map String.toList).zip (elements.map (.table .header)))
  | _ => none

end Toml

namespace Table

/-- The value of a field, or what holds without one; fails if it is of another kind. -/
def field {α : Type} (t : Table) (name : String) (read : Toml → Option α) (default : α) :
    Option α :=
  match t.lookup name.toList with
  | none => some default
  | some v => read v

/-- The fields of a section; none if the section is not there. -/
def readSection (t : Table) (name : String) (names : List String) : Option Table :=
  t.field name (Toml.fields? names) []

end Table

namespace Project

/-- The settings of a document. -/
def ofTable (t : Table) : Option Project := do
  let base : Site.Config := {}
  let site ← t.readSection "site" ["title", "examples_dir", "output_dir", "templates_dir", "manifest"]
  let source ← t.readSection "source" ["extension", "language", "header_lines"]
  let runner ← t.readSection "runner" ["program", "args"]
  let style ← t.readSection "style" ["theme", "minify"]
  let command : Site.Command := {}
  let title ← site.field "title" Toml.string? base.title
  let examples ← site.field "examples_dir" Toml.path? base.examples
  let output ← site.field "output_dir" Toml.path? base.output
  let templates ← site.field "templates_dir" (fun v => v.path?.map some) none
  let manifest ← site.field "manifest" (fun v => v.path?.map some) none
  let extension ← source.field "extension" Toml.string? base.extension
  let language ← source.field "language" Toml.string? base.language
  let headerLines ← source.field "header_lines" Toml.nat? base.headerLines
  let program ← runner.field "program" Toml.string? command.program
  let arguments ← runner.field "args" Toml.strings? command.arguments
  let theme ← style.field "theme" Toml.string? base.theme
  let minify ← style.field "minify" Toml.bool? base.minify
  return {
    config :=
      { examples, manifest, extension, output, templates, language, headerLines, theme, minify,
        title }
    command := { program, arguments } }

/-- The settings of a text. -/
def read? (text : List Char) : Option Project := (Table.read? text).bind ofTable

/-- The configuration of a build, where some settings may be overridden. -/
def configFor (s : Project) (output : Option Path) (minify : Option Bool) : Site.Config :=
  { s.config with
    output := output.getD s.config.output
    minify := minify.getD s.config.minify }

end Project

end LiterateSite.Settings
