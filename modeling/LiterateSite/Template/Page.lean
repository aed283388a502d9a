import LiterateSite.Template.Builtin
import LiterateSite.Template.Render

/-!
# Page templates

* `ExamplePage`, `IndexEntry`: what the pages show.
* `Source`: where the sources of templates come from; `Source.sourcesOf`: some of them.
* `exampleRendering`, `indexRendering`: the pages, with the templates that they take.
* `renderExample`, `renderIndex`: their texts.
-/

namespace LiterateSite.Template

/-- Documentation beside code, both as markup. -/
structure Row where
  markdown : List Char
  codeBlock : List Char
  deriving DecidableEq, Repr, Inhabited

/-- What the page of an example shows. -/
structure ExamplePage where
  siteTitle : List Char
  name : List Char
  id : List Char
  description : List Char
  previous : Option (List Char)
  next : Option (List Char)
  rows : List Row
  deriving DecidableEq, Repr, Inhabited

/-- What the index shows of an example. -/
structure IndexEntry where
  id : List Char
  name : List Char
  description : List Char
  deriving DecidableEq, Repr, Inhabited

/-- The source of a template, by its name. -/
abbrev Source := List Char → Except TemplateError (List Char)

/-- The built-in templates and no others. -/
def Source.builtin : Source := fun name =>
  match builtin? name with
  | some source => .ok source
  | none => .error .notFound

/-- The sources of some templates, with their names. -/
def Source.sourcesOf (s : Source) (names : List (List Char)) : List (List Char × List Char) :=
  names.filterMap fun name => (s name).toOption.map (name, ·)

/-- A template by its name. -/
def Source.load (s : Source) (name : List Char) : Except TemplateError Document := do
  Document.read (← s name)

def Row.value (r : Row) : Value :=
  Value.record [("markdown", .text r.markdown), ("code_block", .text r.codeBlock)]

def IndexEntry.value (e : IndexEntry) : Value :=
  Value.record [("id", .text e.id), ("name", .text e.name), ("description", .text e.description)]

/-- A text that may be missing. -/
def optional : Option (List Char) → Value
  | some chars => .text chars
  | none => .none

def scopeOf (bindings : List (String × Value)) : Scope :=
  bindings.map fun (name, v) => (name.toList, v)

/-- The variables of the page of an example. -/
def ExamplePage.scope (p : ExamplePage) : Scope :=
  scopeOf
    [("site_title", .text p.siteTitle), ("title", .text p.name), ("name", .text p.name),
      ("id", .text p.id), ("description", .text p.description),
      ("previous_id", optional p.previous), ("next_id", optional p.next),
      ("rows", .stored (p.rows.map Row.value))]

/-- The variables of the index. -/
def indexScope (siteTitle : List Char) (examples : List IndexEntry) : Scope :=
  scopeOf
    [("site_title", .text siteTitle), ("title", .text siteTitle),
      ("examples", .stored (examples.map IndexEntry.value))]

/-- The page of an example, with the templates that it takes. -/
def exampleRendering (s : Source) (p : ExamplePage) : Except TemplateError Rendering :=
  rendering s.load exampleName.toList p.scope

/-- The page that lists the examples, with the templates that it takes. -/
def indexRendering (s : Source) (siteTitle : List Char) (examples : List IndexEntry) :
    Except TemplateError Rendering :=
  rendering s.load indexName.toList (indexScope siteTitle examples)

/-- The page of an example. -/
def renderExample (s : Source) (p : ExamplePage) : Except TemplateError (List Char) :=
  render s.load exampleName.toList p.scope

/-- The page that lists the examples. -/
def renderIndex (s : Source) (siteTitle : List Char) (examples : List IndexEntry) :
    Except TemplateError (List Char) :=
  render s.load indexName.toList (indexScope siteTitle examples)

end LiterateSite.Template
