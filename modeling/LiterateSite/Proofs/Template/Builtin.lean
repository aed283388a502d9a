import LiterateSite.Template.Page

/-!
# The built-in templates as documents

* `Stmt.alike`, `read_of_alike`: documents of the kind of the built-in ones can be compared, so that
  **what is read can be computed**.
* `Builtin.frame`, `Builtin.extending`: the frame of every page, and templates that fill it in.
* `read_base`, `read_examplePage`, `read_index`: **the built-in templates.**
-/

namespace LiterateSite.Template

/-! ## Templates that are read -/

/-- The expressions are the same. Only those of the built-in templates are compared. -/
def Expr.alike : Expr → Expr → Bool
  | .const (.text a), .const (.text b) => a == b
  | .var a, .var b => a == b
  | .attr e a, .attr f b => a == b && e.alike f
  | .filter a e [], .filter b f [] => a == b && e.alike f
  | .compare e [.ne] [e'], .compare f [.ne] [f'] => e.alike f && e'.alike f'
  | _, _ => false

mutual

/-- The statements are the same. Only those of the built-in templates are compared. -/
def Stmt.alike : Stmt → Stmt → Bool
  | .text a, .text b => a == b
  | .print e, .print f => e.alike f
  | .branch e yes no, .branch f yes' no' => e.alike f && allAlike yes yes' && allAlike no no'
  | .loop (.name a) e none false body no, .loop (.name b) f none false body' no' =>
    a == b && e.alike f && allAlike body body' && allAlike no no'
  | .block a, .block b => a == b
  | .extend e, .extend f => e.alike f
  | _, _ => false

def allAlike : List Stmt → List Stmt → Bool
  | [], [] => true
  | s :: rest, t :: rest' => s.alike t && allAlike rest rest'
  | _, _ => false

end

theorem Expr.eq_of_alike {e f : Expr} (h : e.alike f = true) : e = f := by
  fun_induction Expr.alike e f with
  | case6 => cases h
  | _ => simp_all

mutual

theorem Stmt.eq_of_alike {s t : Stmt} (h : s.alike t = true) : s = t := by
  unfold Stmt.alike at h
  split at h
  · rw [beq_iff_eq.1 h]
  · rw [Expr.eq_of_alike h]
  · simp only [Bool.and_eq_true] at h
    rw [Expr.eq_of_alike h.1.1, eq_of_allAlike h.1.2, eq_of_allAlike h.2]
  · simp only [Bool.and_eq_true, beq_iff_eq] at h
    rw [h.1.1.1, Expr.eq_of_alike h.1.1.2, eq_of_allAlike h.1.2, eq_of_allAlike h.2]
  · rw [beq_iff_eq.1 h]
  · rw [Expr.eq_of_alike h]
  · cases h

theorem eq_of_allAlike {ss ts : List Stmt} (h : allAlike ss ts = true) : ss = ts := by
  unfold allAlike at h
  split at h
  · rfl
  · rw [Bool.and_eq_true] at h
    rw [Stmt.eq_of_alike h.1, eq_of_allAlike h.2]
  · cases h

end

/-- The templates are the same: a body, and one block. -/
def Document.alike (t u : Document) : Bool :=
  match t.blocks, u.blocks with
  | [(a, content)], [(b, content')] =>
    a == b && allAlike content content' && allAlike t.body u.body
  | _, _ => false

theorem Document.eq_of_alike {t u : Document} (h : t.alike u = true) : t = u := by
  obtain ⟨body, blocks⟩ := t
  obtain ⟨body', blocks'⟩ := u
  unfold Document.alike at h
  simp only at h
  split at h
  · simp only [Bool.and_eq_true, beq_iff_eq] at h
    rw [h.1.1, eq_of_allAlike h.1.2, eq_of_allAlike h.2]
  · cases h

/-- **What is read** can be computed. -/
theorem read_of_alike {source : List Char} {t : Document}
    (h : (Document.read source).toOption.any (·.alike t) = true) :
    Document.read source = .ok t := by
  cases hr : Document.read source with
  | error e => rw [hr] at h; cases h
  | ok found =>
    rw [hr] at h
    rw [Document.eq_of_alike h]

/-! ## The templates -/

namespace Builtin

/-- The block that the built-in templates fill in. -/
def contentName : List Char := "content".toList

def titleName : List Char := "title".toList

def siteTitleName : List Char := "site_title".toList

/-- The page up to its title. -/
def upToTitle : List Char :=
  ("<!DOCTYPE html>\n<html lang=\"en\">\n<head>\n  <meta charset=\"utf-8\">\n" ++
    "  <meta name=\"viewport\" content=\"width=device-width, initial-scale=1\">\n" ++
    "  <title>").toList

/-- The page from its title to its content. -/
def fromTitle : List Char :=
  ("</title>\n  <link rel=\"stylesheet\" href=\"site.css\">\n" ++
    "  <link rel=\"stylesheet\" href=\"code.css\">\n</head>\n<body>\n" ++
    "  <main class=\"main\">\n    ").toList

/-- The page after its content. -/
def afterContent : List Char := "\n  </main>\n</body>\n</html>".toList

/-- What the frame writes before the content. -/
def beforeContent : List Stmt :=
  [.text upToTitle,
    .branch (.compare (.var titleName) [.ne] [.var siteTitleName])
      [.print (.var titleName), .text " - ".toList] [],
    .print (.var siteTitleName), .text fromTitle]

/-- The frame of every page. -/
def frame : Document where
  body := beforeContent ++ [.block contentName, .text afterContent]
  blocks := [(contentName, [])]

/-- A template that fills in the content of the frame. -/
def extending (content : List Stmt) : Document where
  body := [.extend (.const (.text baseName.toList)), .text "\n\n".toList, .block contentName]
  blocks := [(contentName, content)]

/-- A link to an example that may be missing. -/
structure Link where
  before : List Char
  between : List Char
  after : List Char

def previousLink : Link :=
  ⟨"<a class=\"previous\" href=\"".toList, ".html\">&larr; ".toList, "</a>".toList⟩

def nextLink : Link :=
  ⟨"<a class=\"next\" href=\"".toList, ".html\">".toList, " &rarr;</a>".toList⟩

/-- The link, if the variable has an id. -/
def Link.stmt (l : Link) (id : List Char) : Stmt :=
  .branch (.var id)
    [.text l.before, .print (.var id), .text l.between, .print (.var id), .text l.after] []

/-- The link to an id. -/
def Link.to (l : Link) : Option (List Char) → List Char
  | none | some [] => []
  | some id => l.before ++ (escape id ++ (l.between ++ (escape id ++ l.after)))

def rowName : List Char := "row".toList

/-- A field of the row that is shown. -/
def rowField (name : String) : Stmt :=
  .print (.filter "safe".toList (.attr (.var rowName) name.toList) [])

/-- What is written for a row. -/
def rowContent : List Stmt :=
  [.text "\n  <tr>\n    <td class=\"docs\">".toList, rowField "markdown",
    .text "</td>\n    <td class=\"code\">".toList, rowField "code_block",
    .text "</td>\n  </tr>\n".toList]

def previousName : List Char := "previous_id".toList

def nextName : List Char := "next_id".toList

/-- The content of the page of an example. -/
def exampleContent : List Stmt :=
  [.text ("\n<header class=\"example-header\">\n" ++
      "  <a href=\"index.html\" class=\"site-title\">").toList,
    .print (.var siteTitleName), .text "</a>\n  <h1>".toList, .print (.var "name".toList),
    .text "</h1>\n</header>\n<table class=\"example\">\n".toList,
    .loop (.name rowName) (.var "rows".toList) none false rowContent [],
    .text "\n</table>\n<nav class=\"pager\">\n  ".toList,
    previousLink.stmt previousName, .text "\n  ".toList, nextLink.stmt nextName,
    .text "\n</nav>\n".toList]

def itemName : List Char := "example".toList

def itemField (name : String) : Expr := .attr (.var itemName) name.toList

/-- What the index writes for an example. -/
def itemContent : List Stmt :=
  [.text "\n  <li>\n    <a href=\"".toList, .print (itemField "id"), .text ".html\">".toList,
    .print (itemField "name"), .text "</a>\n    ".toList,
    .branch (itemField "description")
      [.text "<span class=\"description\">".toList, .print (itemField "description"),
        .text "</span>".toList] [],
    .text "\n  </li>\n".toList]

/-- The content of the index. -/
def indexContent : List Stmt :=
  [.text "\n<header class=\"example-header\">\n  <h1>".toList, .print (.var siteTitleName),
    .text "</h1>\n</header>\n<ul class=\"example-list\">\n".toList,
    .loop (.name itemName) (.var "examples".toList) none false itemContent [],
    .text "\n</ul>\n".toList]

theorem read_base : Document.read base = .ok frame := read_of_alike (by decide +kernel)

theorem read_examplePage : Document.read examplePage = .ok (extending exampleContent) :=
  read_of_alike (by decide +kernel)

theorem read_index : Document.read index = .ok (extending indexContent) :=
  read_of_alike (by decide +kernel)

end Builtin

end LiterateSite.Template
