import LiterateSite.Site.Page
import LiterateSite.Style.Finish
import LiterateSite.Style.Layout

/-!
# Building a site

* `Config`: what to build, and how.
* `Builder`: a configuration with the means to carry it out.
* `templatesAt`, `sourceAt`, `render`: the templates of a build, each of which is loaded once.
* `buildExample`: the page of one example.
* `build`: the style sheets, the pages of the examples, and the index.
-/

namespace LiterateSite.Site

open Files Text

/-- What to build, and how. -/
structure Config extends Layout where
  output : Path := Path.ofString "public"
  templates : Option Path := none
  language : String := "javascript"
  /-- How many lines at the start of a source are kept for its description. -/
  headerLines : Nat := 0
  theme : String := Highlight.Theme.defaultName
  /-- Write style sheets on one line. -/
  minify : Bool := true
  title : String := "Examples"
  deriving DecidableEq, Repr, Inhabited

/-- A configuration with the means to carry it out. -/
structure Builder where
  config : Config
  templates : Templates
  runner : Runner
  highlighter : Highlight.Highlighter := Highlight.Registry.builtin.highlighter

/-- What a build has done. -/
structure BuildResult where
  pages : Nat
  executed : Nat
  cached : Nat
  output : Path
  deriving DecidableEq, Repr, Inhabited

namespace Builder

/-- A file of the output. -/
def outputPath (b : Builder) (name : String) : Path := b.config.output.join (Path.ofString name)

/-- How the pages look under a theme. -/
def look (b : Builder) (theme : Highlight.Theme) : Look :=
  { highlighter := b.highlighter, theme, language := b.config.language
    siteTitle := b.config.title }

/-- A style sheet as it is written. -/
def finishSheet (b : Builder) (name : String) (css : List Char) : Building (List Char) := do
  let (css, kept) := Style.finish css b.config.minify
  if kept then Building.report (.keptStyleSheet name)
  return css

/-- Write the style sheets. -/
def writeSheets (b : Builder) (theme : Highlight.Theme) : Building Unit := do
  let site ← b.finishSheet "site.css" Style.layout
  let code ← Building.orHighlight (b.highlighter.stylesheet theme)
  let code ← b.finishSheet "code.css" code.toList
  Building.write (b.outputPath "site.css") (Utf8.encode site)
  Building.write (b.outputPath "code.css") (Utf8.encode code)

/-- The templates where a build stands: what it has loaded stays as it was then. -/
def templatesAt (b : Builder) (s : Session) : Templates := { b.templates with loaded := s.loaded }

/-- The sources of these templates. -/
def sourceAt (b : Builder) (s : Session) : Template.Source := (b.templatesAt s).source s.files

/-- Render with the templates of the build, and keep those that this has loaded. A rendering that
fails ends the build, so nothing is kept of it. -/
def render (b : Builder)
    (page : Template.Source → Except Template.TemplateError Template.Rendering) :
    Building (List Char) := do
  let source := b.sourceAt (← get)
  let rendering ← Building.orRender (page source)
  modify fun s => { s with loaded := s.loaded ++ source.sourcesOf rendering.loaded }
  return rendering.text

/-- The page of an example for its transcript. -/
def renderPage (b : Builder) (theme : Highlight.Theme) (x : Example) (transcript : List Char) :
    Building (List Char) := do
  let k := b.look theme
  let markup ← Building.orHighlight (k.transcript transcript)
  let rows ← Building.orHighlight (k.rows x markup)
  b.render (Template.exampleRendering · (k.examplePage x rows))

/-- Write the page of one example. -/
def buildExample (b : Builder) (theme : Highlight.Theme) (e : Entry) :
    Building (Example × Status) := do
  let bytes ← Building.read e.source
  let source := Source.Example.read (Utf8.decodeLossy bytes) b.config.headerLines
  let transcript ← ensureFresh b.runner e bytes
  let x := Example.ofEntry e source transcript.digest
  let html ← b.renderPage theme x transcript.text
  let path := b.outputPath (e.id ++ ".html")
  Building.write path (Utf8.encode html)
  Building.report (.wrotePage path)
  return (x, transcript.status)

/-- Write the index. -/
def writeIndex (b : Builder) (examples : List Example) : Building Unit := do
  let html ← b.render
    (Template.indexRendering · b.config.title.toList (examples.map Example.indexEntry))
  Building.write (b.outputPath "index.html") (Utf8.encode html)

/-- Take the templates as the builder has them. -/
def takeTemplates (b : Builder) : Building Unit :=
  modify fun s => { s with loaded := b.templates.loaded }

/-- Build the site. What is wrong with the configuration is found before anything is written. -/
def build (b : Builder) : Building BuildResult := do
  let theme ← Building.orHighlight (Highlight.Theme.find b.config.theme)
  let entries ← catalog b.config.toLayout
  Building.createDirAll b.config.output
  b.writeSheets theme
  b.takeTemplates
  let built ← entries.mapM (b.buildExample theme)
  b.writeIndex (built.map (·.1))
  let executed := built.countP fun (_, status) => status.executed
  let pages := entries.length
  Building.report (.builtExamples pages executed (pages - executed))
  return { pages, executed, cached := pages - executed, output := b.config.output }

end Builder

/-- A builder for a configuration, with its templates. -/
def openBuilder (config : Config) (runner : Runner) : Building Builder := do
  let templates ← openTemplates config.templates
  return { config, templates, runner }

end LiterateSite.Site
