import LiterateSite.Markdown.Entity
import LiterateSite.Proofs.Template.Pages
import LiterateSite.Proofs.Text.Reference

/-!
# The links of the pages

The pages are read here the way a browser reads them, without a look at how they were written.

* `Names`, `decode`: characters for references to them, whatever names the reader knows.
  `decode_escape`: **text in markup is read back.**
* `scan`, `hrefs`: the values of the attributes `href` in the tags of some markup.
  `scan_append`: markup is read part by part.
* `hrefOf`: what the pages write as a link to an id.
* `hrefs_pagerText`, `hrefs_index`: **the links of a pager and of the index.**
* `hrefs_examplePage`: the links of a page, if the tags in its rows are closed.
-/

namespace LiterateSite.Template

open Builtin Text Markdown

variable {c quote : Char} {cs word chars rest a b name id : List Char} {out out' : List (List Char)}

/-! ## References to characters -/

/-- The names of characters that a reader knows, those of the marks of markup among them. -/
structure Names where
  chars? : List Char → Option (List Char)
  amp : chars? "amp".toList = some ['&']
  lt : chars? "lt".toList = some ['<']
  gt : chars? "gt".toList = some ['>']
  quot : chars? "quot".toList = some ['"']

/-- The names of the marks of markup, and no others. -/
def Names.marks : Names where
  chars? name := [("amp".toList, ['&']), ("lt".toList, ['<']), ("gt".toList, ['>']),
    ("quot".toList, ['"'])].lookup name
  amp := by decide
  lt := by decide
  gt := by decide
  quot := by decide

namespace Names

variable (names : Names)

/-- The characters of a reference, which stands between an ampersand and a semicolon: a number with
a mark in front of it, or a name. -/
def reference? (name : List Char) : Option (List Char) :=
  match name with
  | '#' :: 'x' :: digits | '#' :: 'X' :: digits =>
    (hexNumber? digits).bind fun n => (Entity.ofNumber? n).map ([·])
  | '#' :: digits => (Entity.ofNumber? (decimalNumber digits)).map ([·])
  | name => names.chars? name

/-- Characters for references, in one pass. What has been read of a reference is held back until its
semicolon. -/
def decodeFrom : Option (List Char) → List Char → List Char
  | none, [] => []
  | some name, [] => '&' :: name
  | none, c :: rest => if c = '&' then decodeFrom (some []) rest else c :: decodeFrom none rest
  | some name, c :: rest =>
    if c = ';' then (names.reference? name).getD ('&' :: name ++ [';']) ++ decodeFrom none rest
    else if c = '&' then '&' :: name ++ decodeFrom (some []) rest
    else decodeFrom (some (name ++ [c])) rest

/-- **Text in markup as it is read.** -/
def decode (cs : List Char) : List Char := names.decodeFrom none cs

theorem decode_cons (hc : c ≠ '&') (rest : List Char) :
    names.decode (c :: rest) = c :: names.decode rest := by
  unfold decode
  rw [decodeFrom, if_neg hc]

theorem decodeFrom_reference (rest : List Char) (name : List Char) : ∀ front : List Char,
    ';' ∉ name → '&' ∉ name →
      names.decodeFrom (some front) (name ++ ';' :: rest) =
        (names.reference? (front ++ name)).getD ('&' :: (front ++ name) ++ [';']) ++
          names.decode rest := by
  induction name with
  | nil =>
    intro front _ _
    rw [List.nil_append, decodeFrom, if_pos rfl, List.append_nil]
    rfl
  | cons c name ih =>
    intro front hsemicolon hamp
    rw [List.mem_cons, not_or] at hsemicolon hamp
    rw [List.cons_append, decodeFrom, if_neg (Ne.symm hsemicolon.1), if_neg (Ne.symm hamp.1),
      ih _ hsemicolon.2 hamp.2, List.append_assoc, List.singleton_append]

/-- **A reference is read** as its characters. -/
theorem decode_reference (name : List Char) (hsemicolon : ';' ∉ name) (hamp : '&' ∉ name)
    (h : names.reference? name = some chars) (rest : List Char) :
    names.decode ('&' :: (name ++ ';' :: rest)) = chars ++ names.decode rest := by
  have hopen : names.decode ('&' :: (name ++ ';' :: rest)) =
      names.decodeFrom (some []) (name ++ ';' :: rest) := by
    unfold decode
    rw [decodeFrom, if_pos rfl]
  rw [hopen, decodeFrom_reference names rest name [] hsemicolon hamp, List.nil_append, h]
  rfl

/-- A character is read back. -/
theorem decode_escapeChar (c : Char) (rest : List Char) :
    names.decode (escapeChar c ++ rest) = c :: names.decode rest := by
  have hquote : names.reference? "#x27".toList = some ['\''] := rfl
  have hslash : names.reference? "#x2f".toList = some ['/'] := rfl
  unfold escapeChar
  split
  · exact names.decode_reference "lt".toList (by decide) (by decide) names.lt rest
  · exact names.decode_reference "gt".toList (by decide) (by decide) names.gt rest
  · exact names.decode_reference "amp".toList (by decide) (by decide) names.amp rest
  · exact names.decode_reference "quot".toList (by decide) (by decide) names.quot rest
  · exact names.decode_reference "#x27".toList (by decide) (by decide) hquote rest
  · exact names.decode_reference "#x2f".toList (by decide) (by decide) hslash rest
  · next hamp _ _ _ => exact names.decode_cons hamp rest

/-- **Text in markup is read back.** -/
theorem decode_escape (cs rest : List Char) :
    names.decode (escape cs ++ rest) = cs ++ names.decode rest := by
  induction cs with
  | nil => rfl
  | cons c cs ih =>
    have hcons : escape (c :: cs) = escapeChar c ++ escape cs := rfl
    rw [hcons, List.append_assoc, decode_escapeChar, ih, List.cons_append]

theorem decode_plain (h : '&' ∉ cs) : names.decode cs = cs := by
  induction cs with
  | nil => rfl
  | cons c rest ih =>
    rw [List.mem_cons, not_or] at h
    rw [decode_cons names (Ne.symm h.1), ih h.2]

end Names

/-! ## Reading tags -/

/-- Where a reader of markup is. -/
inductive Reading where
  | text
  /-- In a tag, with the characters since the last blank or value. -/
  | tag (word : List Char)
  /-- In the value after some characters, between two quotes. -/
  | value (word : List Char) (quote : Char) (chars : List Char)
  deriving DecidableEq, Repr

/-- Read a character: the place after it, and the value of an `href` that ends with it. -/
def step : Reading → Char → Reading × List (List Char)
  | .text, c => (if c = '<' then .tag [] else .text, [])
  | .tag word, c =>
    if c = '>' then (.text, [])
    else if c = '"' ∨ c = '\'' then (.value word c [], [])
    else if c = ' ' ∨ c = '\n' then (.tag [], [])
    else (.tag (word ++ [c]), [])
  | .value word quote chars, c =>
    if c = quote then (.tag [], if word = "href=".toList then [chars] else [])
    else (.value word quote (chars ++ [c]), [])

/-- Read markup from a place on: the place at its end, and the values on the way. -/
def scan (p : Reading) : List Char → Reading × List (List Char)
  | [] => (p, [])
  | c :: rest =>
    let (next, found) := step p c
    let (last, more) := scan next rest
    (last, found ++ more)

/-- **The links of some markup.** -/
def hrefs (markup : List Char) : List (List Char) := (scan .text markup).2

/-- All tags are closed. -/
def Closed (markup : List Char) : Prop := (scan .text markup).1 = .text

variable {p q r : Reading}

theorem scan_cons (p : Reading) (c : Char) (rest : List Char) : scan p (c :: rest) =
    ((scan (step p c).1 rest).1, (step p c).2 ++ (scan (step p c).1 rest).2) := rfl

/-- **Markup is read part by part.** -/
theorem scan_append (ha : scan p a = (q, out)) (hb : scan q b = (r, out')) :
    scan p (a ++ b) = (r, out ++ out') := by
  -- on the first part, from every place that it may be read from
  induction a generalizing p out with
  | nil =>
    cases ha
    exact hb
  | cons c rest ih =>
    rw [scan_cons] at ha
    obtain ⟨hplace, rfl⟩ := Prod.mk.inj ha
    rw [List.cons_append, scan_cons, ih (Prod.ext hplace rfl), List.append_assoc]

theorem scan_append_none (ha : scan p a = (q, [])) (hb : scan q b = (r, out)) :
    scan p (a ++ b) = (r, out) := scan_append ha hb

/-- The marks of markup, but for the one that begins a reference. -/
def marks : List Char := ['<', '>', '"', '\'', '/']

theorem escapeChar_no_marks (c : Char) : ∀ d ∈ escapeChar c, d ∉ marks := by
  unfold escapeChar
  split
  case h_7 hlt hgt _ hquot hsingle hslash =>
    intro d hd
    rw [List.mem_singleton.1 hd]
    simp only [marks, List.mem_cons, List.not_mem_nil, or_false, not_or]
    exact ⟨hlt, hgt, hquot, hsingle, hslash⟩
  all_goals simp [marks]

/-- **Text in markup has no marks.** -/
theorem escape_no_marks (hc : c ∈ escape cs) : c ∉ marks := by
  obtain ⟨d, -, hd⟩ := List.mem_flatMap.1 hc
  exact escapeChar_no_marks d c hd

/-- Text opens no tag. -/
theorem scan_escape (cs : List Char) : scan .text (escape cs) = (.text, []) := by
  have hno : ∀ c ∈ escape cs, c ≠ '<' := fun c hc h => escape_no_marks hc (h ▸ by decide)
  generalize escape cs = text at hno
  induction text with
  | nil => rfl
  | cons c rest ih =>
    have hstep : step .text c = (.text, []) := by
      rw [step, if_neg (hno c List.mem_cons_self)]
    rw [scan_cons, hstep, ih fun d hd => hno d (List.mem_cons_of_mem _ hd)]
    rfl

/-- Text ends no value. -/
theorem scan_value_escape (word chars cs : List Char) :
    scan (.value word '"' chars) (escape cs) = (.value word '"' (chars ++ escape cs), []) := by
  have hno : ∀ c ∈ escape cs, c ≠ '"' := fun c hc h => escape_no_marks hc (h ▸ by decide)
  generalize escape cs = text at hno
  induction text generalizing chars with
  | nil => rw [List.append_nil]; rfl
  | cons c rest ih =>
    have hstep : step (.value word '"' chars) c = (.value word '"' (chars ++ [c]), []) := by
      rw [step, if_neg (hno c List.mem_cons_self)]
    rw [scan_cons, hstep, ih _ fun d hd => hno d (List.mem_cons_of_mem _ hd), List.append_assoc]
    rfl

/-! ## Links to ids -/

/-- What the pages write as a link to an id. -/
def hrefOf (id : List Char) : List Char := escape id ++ Reference.ending

/-- **What a reader sees of a link**: the id and the ending of a page. -/
theorem decode_hrefOf (names : Names) (id : List Char) :
    names.decode (hrefOf id) = id ++ Reference.ending := by
  unfold hrefOf
  rw [names.decode_escape, names.decode_plain (by decide)]

/-- The value of a link, up to the end of its tag. -/
theorem scan_href (id : List Char) (hrest : scan .text rest = (.text, out)) :
    scan (.value "href=".toList '"' []) (escape id ++ (".html\">".toList ++ rest)) =
      (.text, hrefOf id :: out) := by
  have hend : scan (.value "href=".toList '"' (escape id)) ".html\">".toList =
      (.text, [hrefOf id]) := by
    simp [scan, step, hrefOf, Reference.ending]
  exact scan_append_none (scan_value_escape _ [] id) (scan_append hend hrest)

theorem scan_text_append (ha : scan .text a = (.text, [])) (hb : scan .text b = (.text, out)) :
    scan .text (a ++ b) = (.text, out) := scan_append_none ha hb

/-- **A link of the pager**, if there is an id. -/
theorem scan_link (l : Link) (between : List Char)
    (hbefore : scan .text l.before = (.value "href=".toList '"' [], []))
    (hbetween : l.between = ".html\">".toList ++ between)
    (hlast : scan .text between = (.text, [])) (hafter : scan .text l.after = (.text, []))
    (id : Option (List Char)) :
    scan .text (l.to id) = (.text, (id.toList.filter (· ≠ [])).map hrefOf) := by
  match id with
  | none => rfl
  | some [] => rfl
  | some (c :: id) =>
    have hshown : scan .text (between ++ (escape (c :: id) ++ l.after)) = (.text, []) :=
      scan_text_append hlast (scan_text_append (scan_escape _) hafter)
    have hto : l.to (some (c :: id)) =
        l.before ++ (escape (c :: id) ++ (l.between ++ (escape (c :: id) ++ l.after))) := rfl
    rw [hto, hbetween, List.append_assoc]
    exact scan_append_none hbefore (scan_href _ hshown)

/-- **The pager**: a link to each neighbour. -/
theorem scan_pagerText (previous next : Option (List Char)) :
    scan .text (pagerText previous next) =
      (.text, ((previous.toList ++ next.toList).filter (· ≠ [])).map hrefOf) := by
  have hprevious := scan_link previousLink "&larr; ".toList rfl rfl rfl rfl previous
  have hnext := scan_link nextLink [] rfl rfl rfl rfl next
  have hblank : scan .text "\n  ".toList = (.text, []) := rfl
  rw [List.filter_append, List.map_append]
  exact scan_append hprevious (scan_text_append hblank hnext)

/-- **An item of the index**: a link to the example. -/
theorem scan_itemText (e : IndexEntry) : scan .text (itemText e) = (.text, [hrefOf e.id]) := by
  have hopen : scan .text "\n  <li>\n    <a href=\"".toList =
      (.value "href=".toList '"' [], []) := rfl
  have hclose : scan .text "</a>\n    ".toList = (.text, []) := rfl
  have hend : scan .text "\n  </li>\n".toList = (.text, []) := rfl
  have hdescription : scan .text (if e.description = [] then [] else
      "<span class=\"description\">".toList ++ (escape e.description ++ "</span>".toList)) =
        (.text, []) := by
    split
    · rfl
    · exact scan_text_append rfl (scan_text_append (scan_escape _) rfl)
  exact scan_append_none hopen (scan_href _ (scan_text_append (scan_escape _)
    (scan_text_append hclose (scan_text_append hdescription hend))))

theorem scan_items (examples : List IndexEntry) :
    scan .text (examples.flatMap itemText) = (.text, examples.map fun e => hrefOf e.id) := by
  induction examples with
  | nil => rfl
  | cons e rest ih => exact scan_append (scan_itemText e) ih

/-! ## Pages -/

/-- The links of the frame. -/
def sheetHrefs : List (List Char) := ["site.css".toList, "code.css".toList]

theorem scan_aboveContent (siteTitle title : List Char) :
    scan .text (aboveContent siteTitle title) = (.text, sheetHrefs) := by
  have htop : scan .text upToTitle = (.text, []) := by decide +kernel
  have hsheets : scan .text fromTitle = (.text, sheetHrefs) := by decide +kernel
  have htitle : scan .text (if title != siteTitle then escape title ++ " - ".toList else []) =
      (.text, []) := by
    split
    · exact scan_text_append (scan_escape _) rfl
    · rfl
  exact scan_text_append htop (scan_text_append htitle (scan_text_append (scan_escape _) hsheets))

theorem scan_afterContent : scan .text afterContent = (.text, []) := by decide +kernel

/-- **The links of the index**: the style sheets, and the examples in their order. -/
theorem hrefs_index (siteTitle : List Char) (examples : List IndexEntry) :
    hrefs (aboveList siteTitle ++ (examples.flatMap itemText ++ belowList)) =
      sheetHrefs ++ examples.map fun e => hrefOf e.id := by
  have hheading : scan .text (headingText siteTitle) = (.text, []) :=
    scan_text_append rfl (scan_text_append (scan_escape _) rfl)
  have habove : scan .text (aboveList siteTitle) = (.text, sheetHrefs) := by
    have h := scan_append (scan_aboveContent siteTitle siteTitle) hheading
    rwa [List.append_nil] at h
  have hbelow : scan .text belowList = (.text, []) := scan_text_append rfl scan_afterContent
  have hlist := scan_append (scan_items examples) hbelow
  rw [List.append_nil] at hlist
  exact congrArg Prod.snd (scan_append habove hlist)

/-- **The links of a pager.** -/
theorem hrefs_pagerText (previous next : Option (List Char)) :
    hrefs (pagerText previous next) =
      ((previous.toList ++ next.toList).filter (· ≠ [])).map hrefOf :=
  congrArg Prod.snd (scan_pagerText previous next)

/-- The markup of a row. -/
def Row.Closed (r : Row) : Prop := Template.Closed r.markdown ∧ Template.Closed r.codeBlock

theorem scan_rows {rows : List Row} (h : ∀ r ∈ rows, r.Closed) :
    scan .text (rows.flatMap rowText) =
      (.text, rows.flatMap fun r => hrefs r.markdown ++ hrefs r.codeBlock) := by
  induction rows with
  | nil => rfl
  | cons r rest ih =>
    obtain ⟨hmarkdown, hcode⟩ := h r List.mem_cons_self
    have hm : scan .text r.markdown = (.text, hrefs r.markdown) := Prod.ext hmarkdown rfl
    have hc : scan .text r.codeBlock = (.text, hrefs r.codeBlock) := Prod.ext hcode rfl
    have hopen : scan .text "\n  <tr>\n    <td class=\"docs\">".toList = (.text, []) := rfl
    have hbetween : scan .text "</td>\n    <td class=\"code\">".toList = (.text, []) := rfl
    have hend : scan .text "</td>\n  </tr>\n".toList = (.text, []) := rfl
    have hlast := scan_append hc hend
    rw [List.append_nil] at hlast
    have hrow : scan .text (rowText r) = (.text, hrefs r.markdown ++ hrefs r.codeBlock) :=
      scan_text_append hopen (scan_append hm (scan_text_append hbetween hlast))
    exact scan_append hrow (ih fun r' hr => h r' (List.mem_cons_of_mem _ hr))

/-- **The links of a page** whose rows have closed tags: the style sheets and the index, those of
the rows, and those of the pager. -/
theorem hrefs_examplePage {p : ExamplePage} (h : ∀ r ∈ p.rows, r.Closed) :
    hrefs (abovePager p ++ (pagerText p.previous p.next ++ belowPager)) =
      sheetHrefs ++ ("index.html".toList ::
        (p.rows.flatMap fun r => hrefs r.markdown ++ hrefs r.codeBlock)) ++
        ((p.previous.toList ++ p.next.toList).filter (· ≠ [])).map hrefOf := by
  have hhome : scan .text ("\n<header class=\"example-header\">\n" ++
      "  <a href=\"index.html\" class=\"site-title\">").toList =
        (.text, ["index.html".toList]) := by decide +kernel
  have hheading : scan .text "</a>\n  <h1>".toList = (.text, []) := rfl
  have htable : scan .text "</h1>\n</header>\n<table class=\"example\">\n".toList =
      (.text, []) := rfl
  have hnav : scan .text "\n</table>\n<nav class=\"pager\">\n  ".toList = (.text, []) := rfl
  have hrows := scan_append (scan_rows h) hnav
  rw [List.append_nil] at hrows
  have hshown : scan .text (shownText p) = (.text, "index.html".toList ::
      p.rows.flatMap fun r => hrefs r.markdown ++ hrefs r.codeBlock) :=
    scan_append hhome (scan_text_append (scan_escape _) (scan_text_append hheading
      (scan_text_append (scan_escape _) (scan_text_append htable hrows))))
  have hbelow : scan .text belowPager = (.text, []) := scan_text_append rfl scan_afterContent
  have hpager := scan_append (scan_pagerText p.previous p.next) hbelow
  rw [List.append_nil] at hpager
  exact congrArg Prod.snd
    (scan_append (scan_append (scan_aboveContent p.siteTitle p.name) hshown) hpager)

end LiterateSite.Template
