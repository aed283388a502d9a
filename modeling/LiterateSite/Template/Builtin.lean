import LiterateSite.Template.Value

/-!
# Built-in templates

* `Builtin.base`, `Builtin.examplePage`, `Builtin.index`: the templates of a site that brings none.
* `builtins`: their names and sources.
-/

namespace LiterateSite.Template

/-- Lines with line ends between them. -/
def sourceOf (lines : List String) : List Char :=
  ((lines.map String.toList).intersperse ['\n']).flatten

namespace Builtin

/-- The frame of every page. -/
def base : List Char := sourceOf
  ["<!DOCTYPE html>",
    "<html lang=\"en\">",
    "<head>",
    "  <meta charset=\"utf-8\">",
    "  <meta name=\"viewport\" content=\"width=device-width, initial-scale=1\">",
    "  <title>\x7b% if title != site_title %\x7d\x7b\x7b title \x7d\x7d - \x7b% endif %\x7d\x7b\x7b site_title \x7d\x7d</title>",
    "  <link rel=\"stylesheet\" href=\"site.css\">",
    "  <link rel=\"stylesheet\" href=\"code.css\">",
    "</head>",
    "<body>",
    "  <main class=\"main\">",
    "    \x7b% block content %\x7d\x7b% endblock %\x7d",
    "  </main>",
    "</body>",
    "</html>"]

/-- The page of one example. -/
def examplePage : List Char := sourceOf
  ["\x7b% extends \"base.html\" %\x7d",
    "",
    "\x7b% block content %\x7d",
    "<header class=\"example-header\">",
    "  <a href=\"index.html\" class=\"site-title\">\x7b\x7b site_title \x7d\x7d</a>",
    "  <h1>\x7b\x7b name \x7d\x7d</h1>",
    "</header>",
    "<table class=\"example\">",
    "\x7b% for row in rows %\x7d",
    "  <tr>",
    "    <td class=\"docs\">\x7b\x7b row.markdown | safe \x7d\x7d</td>",
    "    <td class=\"code\">\x7b\x7b row.code_block | safe \x7d\x7d</td>",
    "  </tr>",
    "\x7b% endfor %\x7d",
    "</table>",
    "<nav class=\"pager\">",
    "  \x7b% if previous_id %\x7d<a class=\"previous\" href=\"\x7b\x7b previous_id \x7d\x7d.html\">&larr; \x7b\x7b previous_id \x7d\x7d</a>\x7b% endif %\x7d",
    "  \x7b% if next_id %\x7d<a class=\"next\" href=\"\x7b\x7b next_id \x7d\x7d.html\">\x7b\x7b next_id \x7d\x7d &rarr;</a>\x7b% endif %\x7d",
    "</nav>",
    "\x7b% endblock %\x7d"]

/-- The list of examples. -/
def index : List Char := sourceOf
  ["\x7b% extends \"base.html\" %\x7d",
    "",
    "\x7b% block content %\x7d",
    "<header class=\"example-header\">",
    "  <h1>\x7b\x7b site_title \x7d\x7d</h1>",
    "</header>",
    "<ul class=\"example-list\">",
    "\x7b% for example in examples %\x7d",
    "  <li>",
    "    <a href=\"\x7b\x7b example.id \x7d\x7d.html\">\x7b\x7b example.name \x7d\x7d</a>",
    "    \x7b% if example.description %\x7d<span class=\"description\">\x7b\x7b example.description \x7d\x7d</span>\x7b% endif %\x7d",
    "  </li>",
    "\x7b% endfor %\x7d",
    "</ul>",
    "\x7b% endblock %\x7d"]

end Builtin

def baseName : String := "base.html"

def exampleName : String := "example.html"

def indexName : String := "index.html"

/-- The names and sources of the built-in templates. -/
def builtins : List (String × List Char) :=
  [(baseName, Builtin.base), (exampleName, Builtin.examplePage), (indexName, Builtin.index)]

/-- The source of a built-in template. -/
def builtin? (name : List Char) : Option (List Char) :=
  (builtins.find? fun (known, _) => known.toList == name).map (·.2)

end LiterateSite.Template
