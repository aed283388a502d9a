/-!
# Page layout

* `layout`: the style sheet of every page: documentation beside code, and the list of examples.
-/

namespace LiterateSite.Style

/-- The lines of the layout sheet. -/
def layoutLines : List String :=
  ["/* Example pages: documentation beside code */",
    "",
    ":root \x7b",
    "  --docs-width: 420px;",
    "  --content-max-width: 1200px;",
    "  --font-mono: ui-monospace, SFMono-Regular, Menlo, Consolas, monospace;",
    "  --muted: #6b7280;",
    "  --border: #e5e7eb;",
    "\x7d",
    "",
    "* \x7b",
    "  box-sizing: border-box;",
    "\x7d",
    "",
    "body \x7b",
    "  margin: 0;",
    "  font-family: system-ui, -apple-system, sans-serif;",
    "  line-height: 1.6;",
    "  color: #111827;",
    "\x7d",
    "",
    ".main \x7b",
    "  max-width: var(--content-max-width);",
    "  margin: 0 auto;",
    "  padding: 2rem 1.5rem;",
    "\x7d",
    "",
    ".example-header h1 \x7b",
    "  margin: 0.5rem 0 1.5rem;",
    "  font-size: 2rem;",
    "\x7d",
    "",
    ".site-title \x7b",
    "  color: var(--muted);",
    "  text-decoration: none;",
    "\x7d",
    "",
    "table.example \x7b",
    "  width: 100%;",
    "  border-collapse: collapse;",
    "\x7d",
    "",
    "table.example td \x7b",
    "  vertical-align: top;",
    "  padding: 0 1rem 0.75rem 0;",
    "\x7d",
    "",
    "td.docs \x7b",
    "  width: var(--docs-width);",
    "  font-size: 0.95rem;",
    "\x7d",
    "",
    "td.docs p \x7b",
    "  margin: 0;",
    "\x7d",
    "",
    "td.code pre \x7b",
    "  margin: 0;",
    "  padding: 0.75rem 1rem;",
    "  border-radius: 6px;",
    "  overflow-x: auto;",
    "  font-family: var(--font-mono);",
    "  font-size: 0.875rem;",
    "\x7d",
    "",
    ".pager \x7b",
    "  display: flex;",
    "  justify-content: space-between;",
    "  margin-top: 2rem;",
    "  padding-top: 1rem;",
    "  border-top: 1px solid var(--border);",
    "\x7d",
    "",
    ".pager .next \x7b",
    "  margin-left: auto;",
    "\x7d",
    "",
    ".example-list \x7b",
    "  list-style: none;",
    "  padding: 0;",
    "\x7d",
    "",
    ".example-list li \x7b",
    "  padding: 0.5rem 0;",
    "  border-bottom: 1px solid var(--border);",
    "\x7d",
    "",
    ".example-list .description \x7b",
    "  margin-left: 1rem;",
    "  color: var(--muted);",
    "\x7d",
    "",
    "@media (max-width: 768px) \x7b",
    "  table.example td \x7b",
    "    display: block;",
    "    width: 100%;",
    "  \x7d",
    "\x7d"]

/-- The style sheet of the page layout. -/
def layout : List Char := layoutLines.flatMap fun line => line.toList ++ ['\n']

end LiterateSite.Style
