import LiterateSite.Proofs.Template.Hrefs
import Mathlib.Data.List.Forall2

/-!
# The tags of the pages

What a reader of markup takes for tags depends on the plain fields of a page only in whether they
are there.

* `Position.next`, `readTags`: markup is read character by character. `tags` are the tags of some
  markup, without what stands between quotes in them, and `tagNames` are their names.
* `Reads.append`: **markup without open tags is read part by part**, and escaped text adds nothing
  to it (`reads_escape`, `Reads.around`).
* `outline_readTags`: what is left open decides the names of the tags that follow, whatever else
  is in it. `outline_skip`: **escaped text does not change the names**, wherever it stands but in
  a name.
* `readTags_abovePager`, `outline_pagerText`, `SameItem.sameTags`: the parts of the pages.
* `builtin_pages_tags`: the pages in closed form, and the tags of pages with other plain fields.
-/

namespace LiterateSite.Template

open Builtin

/-! ## Reading tags -/

/-- A tag: its name, and what follows on it, without what stands between quotes. -/
structure Tag where
  name : List Char
  rest : List Char
  deriving DecidableEq, Repr

/-- The quotes around a value. -/
inductive Quote where
  | single
  | double
  deriving DecidableEq, Repr

def Quote.char : Quote → Char
  | single => '\''
  | double => '"'

/-- Where a reader of tags is. -/
inductive Position where
  | text
  /-- In the name of a tag. -/
  | name (chars : List Char)
  /-- In a tag, after its name. -/
  | tag (t : Tag)
  /-- Between two quotes in a tag. -/
  | value (t : Tag) (quote : Quote)
  deriving DecidableEq, Repr

/-- Read a character: the position after it, and the tag that ends with it. -/
def Position.next : Position → Char → Position × List Tag
  | text, c => (if c = '<' then name [] else text, [])
  | name chars, c =>
    if c = '>' then (text, [⟨chars, []⟩])
    else if c = ' ' ∨ c = '\n' then (tag ⟨chars, []⟩, [])
    else (name (chars ++ [c]), [])
  | tag t, c =>
    if c = '>' then (text, [t])
    else if c = Quote.single.char then (value t .single, [])
    else if c = Quote.double.char then (value t .double, [])
    else (tag { t with rest := t.rest ++ [c] }, [])
  | value t quote, c =>
    if c = quote.char then (tag { t with rest := t.rest ++ [quote.char, quote.char] }, [])
    else (value t quote, [])

/-- Read markup from a position on: the position at its end, and the tags on the way. -/
def readTags (p : Position) : List Char → Position × List Tag
  | [] => (p, [])
  | c :: rest =>
    ((readTags (p.next c).1 rest).1, (p.next c).2 ++ (readTags (p.next c).1 rest).2)

/-- **The tags of some markup.** -/
def tags (markup : List Char) : List Tag := (readTags .text markup).2

/-- **The names of the tags.** -/
def tagNames (markup : List Char) : List (List Char) := (tags markup).map Tag.name

variable {p q : Position} {t : Tag} {c : Char} {cs a b b' : List Char} {found later : List Tag}

theorem readTags_append (p : Position) (a b : List Char) : readTags p (a ++ b) =
    ((readTags (readTags p a).1 b).1, (readTags p a).2 ++ (readTags (readTags p a).1 b).2) := by
  induction a generalizing p with
  | nil => simp [readTags]
  | cons c rest ih => simp [readTags, ih]

/-! ## Escaped text between tags and in values -/

/-- No tag is open at the end of the markup. -/
def Whole (markup : List Char) : Prop := (readTags .text markup).1 = .text

/-- The markup has these tags, and none of them is open at its end. -/
def Reads (markup : List Char) (found : List Tag) : Prop :=
  readTags .text markup = (.text, found)

theorem Whole.reads (h : Whole a) : Reads a (tags a) := Prod.ext h rfl

theorem Reads.before (h : Reads a found) (b : List Char) : readTags .text (a ++ b) =
    ((readTags .text b).1, found ++ (readTags .text b).2) := by
  rw [readTags_append, h]

/-- **Markup without open tags is read part by part.** -/
theorem Reads.append (ha : Reads a found) (hb : Reads b later) :
    Reads (a ++ b) (found ++ later) := by
  unfold Reads
  rw [ha.before, hb]

theorem next_text (hc : c ∉ marks) : Position.text.next c = (.text, []) := by
  have hopen : c ≠ '<' := fun h => hc (h ▸ by decide)
  simp [Position.next, hopen]

theorem next_value (t : Tag) (quote : Quote) (hc : c ∉ marks) :
    (Position.value t quote).next c = (.value t quote, []) := by
  have hquote : c ≠ quote.char := by
    intro h
    apply hc
    rw [h]
    cases quote <;> decide
  simp [Position.next, hquote]

/-- Text that changes nothing character by character changes nothing. -/
theorem readTags_of_next (h : ∀ c ∈ cs, p.next c = (p, [])) : readTags p cs = (p, []) := by
  induction cs with
  | nil => rfl
  | cons c rest ih =>
    have hrest := ih fun d hd => h d (List.mem_cons_of_mem _ hd)
    simp [readTags, h c List.mem_cons_self, hrest]

/-- **Escaped text has no tags.** -/
theorem reads_escape (cs : List Char) : Reads (escape cs) [] :=
  readTags_of_next fun _ hc => next_text (escape_no_marks hc)

/-- **Escaped text between quotes** leaves the tag as it is. -/
theorem Reads.around (hbefore : readTags .text a = (.value t .double, found))
    (hafter : readTags (.value t .double) b = (.text, later)) (cs : List Char) :
    Reads (a ++ (escape cs ++ b)) (found ++ later) := by
  have hcs : readTags (.value t .double) (escape cs) = (.value t .double, []) :=
    readTags_of_next fun _ hc => next_value t .double (escape_no_marks hc)
  unfold Reads
  rw [readTags_append, hbefore, readTags_append, hcs, hafter]
  rfl

/-- Two parts of markup with the same tags, none of which is open at the end. -/
def SameTags (a b : List Char) : Prop := ∃ found, Reads a found ∧ Reads b found

theorem Whole.sameTags (h : Whole a) : SameTags a a := ⟨tags a, h.reads, h.reads⟩

theorem sameTags_escape (cs ds : List Char) : SameTags (escape cs) (escape ds) :=
  ⟨[], reads_escape cs, reads_escape ds⟩

theorem SameTags.append (h : SameTags a b) {a' b' : List Char} (h' : SameTags a' b') :
    SameTags (a ++ a') (b ++ b') := by
  obtain ⟨found, ha, hb⟩ := h
  obtain ⟨later, ha', hb'⟩ := h'
  exact ⟨found ++ later, ha.append ha', hb.append hb'⟩

/-- The same markup after parts with the same tags. -/
theorem SameTags.before (h : SameTags a b) (markup : List Char) :
    readTags .text (a ++ markup) = readTags .text (b ++ markup) := by
  obtain ⟨found, ha, hb⟩ := h
  rw [ha.before, hb.before]

theorem SameTags.tags_eq (h : SameTags a b) : tags a = tags b := by
  obtain ⟨found, ha, hb⟩ := h
  unfold tags
  rw [ha, hb]

/-! ## Escaped text wherever it stands -/

/-- The position, whatever is in its tag beside the name. -/
def Position.outline : Position → Position
  | tag t => tag { t with rest := [] }
  | value t quote => value { t with rest := [] } quote
  | p => p

/-- What is left of a reading without what stands in its tags beside the names. -/
def outline (x : Position × List Tag) : Position × List (List Char) :=
  (x.1.outline, x.2.map Tag.name)

theorem outline_next (p : Position) (c : Char) :
    outline (p.outline.next c) = outline (p.next c) := by
  cases p with
  | text => rfl
  | name chars => rfl
  | tag t =>
    simp only [Position.outline, Position.next]
    split_ifs <;> rfl
  | value t quote =>
    simp only [Position.outline, Position.next]
    split_ifs <;> rfl

/-- **What is left open** decides the names that follow. -/
theorem outline_readTags (h : p.outline = q.outline) (cs : List Char) :
    outline (readTags p cs) = outline (readTags q cs) := by
  induction cs generalizing p q with
  | nil => simp [readTags, outline, h]
  | cons c rest ih =>
    have hnext : outline (p.next c) = outline (q.next c) := by
      rw [← outline_next p, h, outline_next]
    obtain ⟨hposition, hnames⟩ := Prod.mk.inj hnext
    obtain ⟨hlast, hmore⟩ := Prod.mk.inj (ih hposition)
    simp [readTags, outline, hnames, hlast, hmore]

/-- Parts with the same names after one another. -/
theorem outline_append (ha : outline (readTags p a) = outline (readTags q b))
    {c d : List Char} (hc : ∀ r, outline (readTags r c) = outline (readTags r d)) :
    outline (readTags p (a ++ c)) = outline (readTags q (b ++ d)) := by
  obtain ⟨hposition, hnames⟩ := Prod.mk.inj ha
  obtain ⟨hlast, hmore⟩ := Prod.mk.inj ((hc _).trans (outline_readTags hposition d))
  rw [readTags_append, readTags_append]
  simp [outline, hnames, hlast, hmore]

/-- A change after some markup, from the position that it leads to. -/
theorem outline_after (a : List Char)
    (h : outline (readTags (readTags p a).1 b) = outline (readTags (readTags p a).1 b')) :
    outline (readTags p (a ++ b)) = outline (readTags p (a ++ b')) := by
  obtain ⟨hlast, hmore⟩ := Prod.mk.inj h
  rw [readTags_append, readTags_append]
  simp [outline, hlast, hmore]

/-- The position is not in the name of a tag. -/
def Position.Calm (p : Position) : Prop := ∀ chars, p ≠ .name chars

theorem Position.Calm.next (hp : p.Calm) (hc : c ≠ '<') : (p.next c).1.Calm := by
  intro chars
  cases p with
  | text => simp [Position.next, hc]
  | name chars => exact absurd rfl (hp chars)
  | tag t => simp only [Position.next]; split_ifs <;> simp
  | value t quote => simp only [Position.next]; split_ifs <;> simp

theorem Position.Calm.readTags (hp : p.Calm) (h : '<' ∉ cs) : (readTags p cs).1.Calm := by
  induction cs generalizing p with
  | nil => exact hp
  | cons c rest ih =>
    rw [List.mem_cons, not_or] at h
    exact ih (hp.next (Ne.symm h.1)) h.2

/-- A name ends with a blank. -/
theorem calm_next_blank (p : Position) : (p.next ' ').1.Calm := by
  intro chars
  cases p with
  | text => simp [Position.next]
  | name chars => simp [Position.next]
  | tag t => simp [Position.next, Quote.char]
  | value t quote => cases quote <;> simp [Position.next, Quote.char]

/-- **After a blank no name is read** up to the next tag. -/
theorem calm_readTags_blank (p : Position) (front : List Char) {back : List Char}
    (h : '<' ∉ back) : (readTags p (front ++ ' ' :: back)).1.Calm := by
  rw [readTags_append]
  exact (calm_next_blank _).readTags h

/-- A character without meaning for tags keeps the names. -/
theorem outline_next_of_calm (hp : p.Calm) (hc : c ∉ marks) :
    outline (p.next c) = (p.outline, []) := by
  cases p with
  | text => rw [next_text hc]; rfl
  | name chars => exact absurd rfl (hp chars)
  | tag t =>
    have hclose : c ≠ '>' := fun h => hc (h ▸ by decide)
    have hsingle : c ≠ Quote.single.char := fun h => hc (h ▸ by decide)
    have hdouble : c ≠ Quote.double.char := fun h => hc (h ▸ by decide)
    simp [Position.next, hclose, hsingle, hdouble, outline, Position.outline]
  | value t quote => rw [next_value t quote hc]; rfl

theorem outline_unmarked (hp : p.Calm) (h : ∀ c ∈ cs, c ∉ marks) :
    outline (readTags p cs) = (p.outline, []) := by
  induction cs generalizing p with
  | nil => rfl
  | cons c rest ih =>
    have hc : c ∉ marks := h c List.mem_cons_self
    have hopen : c ≠ '<' := fun heq => hc (heq ▸ by decide)
    obtain ⟨hposition, hnames⟩ := Prod.mk.inj (outline_next_of_calm hp hc)
    obtain ⟨hlast, hmore⟩ := Prod.mk.inj
      (ih (hp.next hopen) fun d hd => h d (List.mem_cons_of_mem _ hd))
    rw [hposition] at hlast
    simp only [readTags, outline, List.map_append, hnames, hmore, hlast, List.append_nil]

/-- **Escaped text does not change the names**, wherever it stands but in a name. -/
theorem outline_skip (hp : p.Calm) (cs b : List Char) :
    outline (readTags p (escape cs ++ b)) = outline (readTags p b) := by
  have hcs : outline (readTags p (escape cs)) = outline (readTags p []) :=
    outline_unmarked hp fun _ hc => escape_no_marks hc
  exact outline_append hcs fun _ => rfl

/-! ## The page of an example -/

/-- There is an id to link to. -/
def Shown (id : Option (List Char)) : Prop := ∃ c rest, id = some (c :: rest)

theorem Builtin.Link.to_of_not_shown (l : Link) {id : Option (List Char)} (h : ¬ Shown id) :
    l.to id = [] := by
  rcases id with _ | _ | ⟨c, rest⟩
  · rfl
  · rfl
  · exact absurd ⟨c, rest, rfl⟩ h

theorem Builtin.Link.to_ne_nil_iff (l : Link) (h : l.before ≠ []) {id : Option (List Char)} :
    l.to id ≠ [] ↔ Shown id := by
  constructor
  · intro hto
    by_contra hs
    exact hto (l.to_of_not_shown hs)
  · rintro ⟨c, rest, rfl⟩
    exact List.append_ne_nil_of_left_ne_nil h _

/-- A link around no id. -/
def Builtin.Link.frame (l : Link) : List Char := l.before ++ (l.between ++ l.after)

/-- **The id of a link does not change the names**, whatever is open before the link. -/
theorem outline_link (l : Link) (front back : List Char) (hbefore : l.before = front ++ ' ' :: back)
    (hback : '<' ∉ back) (hbetween : '<' ∉ l.between) (p : Position)
    {id : Option (List Char)} (h : Shown id) :
    outline (readTags p (l.to id)) = outline (readTags p l.frame) := by
  obtain ⟨c, rest, rfl⟩ := h
  have hcalm : (readTags p l.before).1.Calm := by
    rw [hbefore]
    exact calm_readTags_blank p front hback
  have hfirst := outline_after l.before
    (outline_skip hcalm (c :: rest) (l.between ++ (escape (c :: rest) ++ l.after)))
  -- no tag begins between the two places of the id
  have hsecond := outline_after l.before (outline_after l.between
    (outline_skip (hcalm.readTags hbetween) (c :: rest) l.after))
  exact hfirst.trans hsecond

/-- What holds of a link with any id holds of both of two links, or of none. -/
theorem link_congr {β : Type} (f : List Char → β) {x : β} {l : Link}
    {id id' : Option (List Char)} (h : Shown id ↔ Shown id')
    (hl : ∀ {id}, Shown id → f (l.to id) = x) : f (l.to id) = f (l.to id') := by
  by_cases hs : Shown id
  · rw [hl hs, hl (h.1 hs)]
  · have hs' : ¬ Shown id' := fun hs' => hs (h.2 hs')
    rw [l.to_of_not_shown hs, l.to_of_not_shown hs']

/-- **The tags of a link** depend on whether there is an id. -/
theorem sameTags_link (l : Link)
    (hbefore : readTags .text l.before = (.value t .double, found))
    (hbetween : readTags (.value t .double) l.between = (.text, later))
    (hafter : Whole l.after) {id id' : Option (List Char)} (h : Shown id ↔ Shown id') :
    SameTags (l.to id) (l.to id') := by
  have hreads : ∀ {id}, Shown id → Reads (l.to id) (found ++ later ++ tags l.after) := by
    rintro _ ⟨c, rest, rfl⟩
    have hopen := Reads.around hbefore hbetween (c :: rest)
    have hclose := (reads_escape (c :: rest)).append hafter.reads
    have hlink := hopen.append hclose
    rwa [List.append_assoc, List.append_assoc] at hlink
  by_cases hs : Shown id
  · exact ⟨_, hreads hs, hreads (h.1 hs)⟩
  · have hs' : ¬ Shown id' := fun hs' => hs (h.2 hs')
    rw [l.to_of_not_shown hs, l.to_of_not_shown hs']
    exact ⟨[], rfl, rfl⟩

/-- **The names in the pager** depend on which neighbours there are, whatever is open before it. -/
theorem outline_pagerText {previous previous' next next' : Option (List Char)}
    (hprevious : Shown previous ↔ Shown previous') (hnext : Shown next ↔ Shown next')
    (p : Position) : outline (readTags p (pagerText previous next)) =
      outline (readTags p (pagerText previous' next')) := by
  have hfirst := link_congr (fun markup => outline (readTags p markup)) hprevious
    (outline_link previousLink "<a class=\"previous\"".toList "href=\"".toList rfl (by decide)
      (by decide) p)
  refine outline_append hfirst fun r => ?_
  have hsecond := link_congr
    (fun markup => outline (readTags (readTags r "\n  ".toList).1 markup)) hnext
    (outline_link nextLink "<a class=\"next\"".toList "href=\"".toList rfl (by decide)
      (by decide) _)
  exact outline_after _ hsecond

/-- **The tags of the pager**, after markup without open tags. -/
theorem sameTags_pagerText {previous previous' next next' : Option (List Char)}
    (hprevious : Shown previous ↔ Shown previous') (hnext : Shown next ↔ Shown next') :
    SameTags (pagerText previous next) (pagerText previous' next') := by
  have hblank : Whole "\n  ".toList := rfl
  have hfirst : SameTags (previousLink.to previous) (previousLink.to previous') :=
    sameTags_link previousLink rfl rfl rfl hprevious
  have hsecond : SameTags (nextLink.to next) (nextLink.to next') :=
    sameTags_link nextLink rfl rfl rfl hnext
  exact hfirst.append (hblank.sameTags.append hsecond)

theorem sameTags_aboveContent (siteTitle title siteTitle' title' : List Char) :
    SameTags (aboveContent siteTitle title) (aboveContent siteTitle' title') := by
  have htop : Whole upToTitle := by unfold Whole; decide +kernel
  have hsheets : Whole fromTitle := by unfold Whole; decide +kernel
  have htitle : ∀ siteTitle title : List Char,
      Reads (if title != siteTitle then escape title ++ " - ".toList else []) [] := by
    intro siteTitle title
    split
    · exact (reads_escape title).append rfl
    · rfl
  have htitles := htop.sameTags.append
    (SameTags.append ⟨[], htitle siteTitle title, htitle siteTitle' title'⟩
      ((sameTags_escape siteTitle siteTitle').append hsheets.sameTags))
  exact htitles

/-- The page of an example up to its rows. -/
def aboveRows (p : ExamplePage) : List Char :=
  aboveContent p.siteTitle p.name ++ (("\n<header class=\"example-header\">\n" ++
    "  <a href=\"index.html\" class=\"site-title\">").toList ++ (escape p.siteTitle ++
      ("</a>\n  <h1>".toList ++ (escape p.name ++
        "</h1>\n</header>\n<table class=\"example\">\n".toList))))

/-- What stands between the rows and the pager. -/
def belowRows : List Char := "\n</table>\n<nav class=\"pager\">\n  ".toList

theorem abovePager_eq (p : ExamplePage) :
    abovePager p = aboveRows p ++ (p.rows.flatMap rowText ++ belowRows) := by
  unfold abovePager aboveRows shownText belowRows
  simp only [List.append_assoc]

theorem sameTags_aboveRows (p q : ExamplePage) : SameTags (aboveRows p) (aboveRows q) := by
  have hhome : Whole ("\n<header class=\"example-header\">\n" ++
      "  <a href=\"index.html\" class=\"site-title\">").toList := by unfold Whole; decide +kernel
  have hheading : Whole "</a>\n  <h1>".toList := rfl
  have htable : Whole "</h1>\n</header>\n<table class=\"example\">\n".toList := rfl
  have hcontent := sameTags_aboveContent p.siteTitle p.name q.siteTitle q.name
  exact hcontent.append (hhome.sameTags.append ((sameTags_escape _ _).append
    (hheading.sameTags.append ((sameTags_escape _ _).append htable.sameTags))))

/-- **The page of an example in closed form.** -/
def exampleText (p : ExamplePage) : List Char :=
  abovePager p ++ (pagerText p.previous p.next ++ belowPager)

/-- Pages with the same rows and links to the same neighbours, whatever is called how. -/
structure SameFrame (p q : ExamplePage) : Prop where
  rows : p.rows = q.rows
  previous : Shown p.previous ↔ Shown q.previous
  next : Shown p.next ↔ Shown q.next

variable {page page' : ExamplePage}

theorem readTags_abovePager (h : SameFrame page page') :
    readTags .text (abovePager page) = readTags .text (abovePager page') := by
  rw [abovePager_eq, abovePager_eq, h.rows]
  exact (sameTags_aboveRows page page').before _

/-- **Plain fields do not change the names of tags**, even if the rows leave a tag open. -/
theorem SameFrame.tagNames_eq (h : SameFrame page page') :
    tagNames (exampleText page) = tagNames (exampleText page') := by
  have habove := congrArg outline (readTags_abovePager h)
  have hpage := outline_append habove fun r =>
    outline_append (c := belowPager) (d := belowPager)
      (outline_pagerText h.previous h.next r) fun _ => rfl
  exact (Prod.mk.inj hpage).2

/-- **Plain fields do not change the tags** if the rows leave none open. -/
theorem SameFrame.tags_eq (h : SameFrame page page') (hrows : Whole (page.rows.flatMap rowText)) :
    tags (exampleText page) = tags (exampleText page') := by
  have hnav : Whole belowRows := rfl
  have hbelow : Whole belowPager := by unfold Whole; decide +kernel
  have habove : SameTags (abovePager page) (abovePager page') := by
    rw [abovePager_eq, abovePager_eq, ← h.rows]
    exact (sameTags_aboveRows page page').append (hrows.sameTags.append hnav.sameTags)
  exact (habove.append ((sameTags_pagerText h.previous h.next).append hbelow.sameTags)).tags_eq

/-! ## The index -/

/-- **The index in closed form.** -/
def indexText (siteTitle : List Char) (examples : List IndexEntry) : List Char :=
  aboveList siteTitle ++ (examples.flatMap itemText ++ belowList)

/-- Both entries have a description, or none of them has. -/
def SameItem (e f : IndexEntry) : Prop := e.description = [] ↔ f.description = []

/-- **The tags of an item** depend on whether there is a description. -/
theorem SameItem.sameTags {e f : IndexEntry} (h : SameItem e f) :
    SameTags (itemText e) (itemText f) := by
  let link : Tag := ⟨"a".toList, "href=".toList⟩
  have hbefore : readTags .text "\n  <li>\n    <a href=\"".toList =
      (.value link .double, [⟨"li".toList, []⟩]) := by decide
  have hafter : readTags (.value link .double) ".html\">".toList =
      (.text, [⟨"a".toList, "href=\"\"".toList⟩]) := by decide
  have hlink : SameTags ("\n  <li>\n    <a href=\"".toList ++ (escape e.id ++ ".html\">".toList))
      ("\n  <li>\n    <a href=\"".toList ++ (escape f.id ++ ".html\">".toList)) :=
    ⟨_, Reads.around hbefore hafter e.id, Reads.around hbefore hafter f.id⟩
  have hclose : Whole "</a>\n    ".toList := rfl
  have hend : Whole "\n  </li>\n".toList := rfl
  have hspan : Whole "<span class=\"description\">".toList := rfl
  have hspanEnd : Whole "</span>".toList := rfl
  have hdescription : SameTags
      (if e.description = [] then [] else "<span class=\"description\">".toList ++
        (escape e.description ++ "</span>".toList))
      (if f.description = [] then [] else "<span class=\"description\">".toList ++
        (escape f.description ++ "</span>".toList)) := by
    by_cases hd : e.description = []
    · rw [if_pos hd, if_pos (h.1 hd)]
      exact ⟨[], rfl, rfl⟩
    · rw [if_neg hd, if_neg fun hf => hd (h.2 hf)]
      exact hspan.sameTags.append ((sameTags_escape _ _).append hspanEnd.sameTags)
  have hitem := hlink.append ((sameTags_escape e.name f.name).append
    (hclose.sameTags.append (hdescription.append hend.sameTags)))
  unfold itemText
  simpa only [List.append_assoc] using hitem

theorem sameTags_items {examples examples' : List IndexEntry}
    (h : List.Forall₂ SameItem examples examples') :
    SameTags (examples.flatMap itemText) (examples'.flatMap itemText) := by
  induction h with
  | nil => exact ⟨[], rfl, rfl⟩
  | cons hitem _ ih => exact hitem.sameTags.append ih

/-- **Plain fields do not change the tags of the index.** -/
theorem tags_indexText {examples examples' : List IndexEntry}
    (h : List.Forall₂ SameItem examples examples') (siteTitle siteTitle' : List Char) :
    tags (indexText siteTitle examples) = tags (indexText siteTitle' examples') := by
  have hheading : Whole "\n<header class=\"example-header\">\n  <h1>".toList := rfl
  have hopen : Whole "</h1>\n</header>\n<ul class=\"example-list\">\n".toList := rfl
  have habove : SameTags (aboveList siteTitle) (aboveList siteTitle') :=
    (sameTags_aboveContent siteTitle siteTitle siteTitle' siteTitle').append
      (hheading.sameTags.append ((sameTags_escape _ _).append hopen.sameTags))
  have hbelow : Whole belowList := by unfold Whole; decide +kernel
  exact (habove.append ((sameTags_items h).append hbelow.sameTags)).tags_eq

/-! ## The built-in pages -/

/-- **The built-in pages in closed form.** Rows stand in the page of an example as they are, and the
pager has a link exactly for a neighbour that has an id. All plain fields are escaped, so that none
of them has a mark of markup. Pages with the same rows and links have tags of the same names in the
same order, whatever their plain fields are, and the same tags if the rows leave none open; so has
the index. -/
theorem builtin_pages_tags :
    (∀ page, renderExample .builtin page = .ok (exampleText page)) ∧
    (∀ siteTitle examples,
      renderIndex .builtin siteTitle examples = .ok (indexText siteTitle examples)) ∧
    (∀ id, (previousLink.to id ≠ [] ↔ Shown id) ∧ (nextLink.to id ≠ [] ↔ Shown id)) ∧
    (∀ chars, ∀ c ∈ escape chars, c ∉ marks) ∧
    (∀ page page' text text', SameFrame page page' →
      renderExample .builtin page = .ok text → renderExample .builtin page' = .ok text' →
        tagNames text = tagNames text' ∧
        (Whole (page.rows.flatMap rowText) → tags text = tags text')) ∧
    ∀ siteTitle siteTitle' examples examples' text text',
      List.Forall₂ SameItem examples examples' →
      renderIndex .builtin siteTitle examples = .ok text →
      renderIndex .builtin siteTitle' examples' = .ok text' → tags text = tags text' := by
  have hkeeps : ∀ name, Source.builtin.Keeps name := fun _ => rfl
  have hexample : ∀ page, renderExample .builtin page = .ok (exampleText page) :=
    renderExample_builtin (hkeeps _) (hkeeps _)
  have hindex : ∀ siteTitle examples,
      renderIndex .builtin siteTitle examples = .ok (indexText siteTitle examples) :=
    renderIndex_builtin (hkeeps _) (hkeeps _)
  refine ⟨hexample, hindex, ?_, fun chars c hc => escape_no_marks hc, ?_, ?_⟩
  · intro id
    exact ⟨previousLink.to_ne_nil_iff (List.cons_ne_nil _ _),
      nextLink.to_ne_nil_iff (List.cons_ne_nil _ _)⟩
  · intro page page' text text' h ht ht'
    rw [hexample] at ht ht'
    rw [← Except.ok.inj ht, ← Except.ok.inj ht']
    exact ⟨h.tagNames_eq, h.tags_eq⟩
  · intro siteTitle siteTitle' examples examples' text text' h ht ht'
    rw [hindex] at ht ht'
    rw [← Except.ok.inj ht, ← Except.ok.inj ht']
    exact tags_indexText h siteTitle siteTitle'

/-- A page whose fields are full of markup. -/
def hostilePage : ExamplePage where
  siteTitle := "<script>".toList
  name := "a\"><script>'/&".toList
  id := "a".toList
  description := []
  previous := some "\"><script>".toList
  next := none
  rows := [⟨"<p>Go</p>".toList, "<pre>go</pre>".toList⟩]

/-- A page with the same rows whose fields are words. -/
def plainPage : ExamplePage where
  siteTitle := "Site".toList
  name := "Name".toList
  id := "b".toList
  description := "words".toList
  previous := some "c".toList
  next := some []
  rows := [⟨"<p>Go</p>".toList, "<pre>go</pre>".toList⟩]

theorem builtin_pages_tags_hostile :
    SameFrame hostilePage plainPage ∧ Whole (hostilePage.rows.flatMap rowText) ∧
      SameItem ⟨"<".toList, ">".toList, "\"".toList⟩ ⟨"a".toList, "b".toList, "c".toList⟩ ∧
      tagNames (exampleText hostilePage) = tagNames (exampleText plainPage) ∧
      tags (exampleText hostilePage) = tags (exampleText plainPage) ∧
      tags (indexText "<".toList [⟨"<".toList, ">".toList, "\"".toList⟩]) =
        tags (indexText "a".toList [⟨"a".toList, "b".toList, "c".toList⟩]) := by
  have hframe : SameFrame hostilePage plainPage := by
    refine ⟨rfl, ⟨fun _ => ⟨_, _, rfl⟩, fun _ => ⟨_, _, rfl⟩⟩, ⟨?_, ?_⟩⟩
    · rintro ⟨c, rest, h⟩
      cases h
    · rintro ⟨c, rest, h⟩
      cases h
  have hrows : Whole (hostilePage.rows.flatMap rowText) := by unfold Whole; decide +kernel
  have hitem : SameItem ⟨"<".toList, ">".toList, "\"".toList⟩
      ⟨"a".toList, "b".toList, "c".toList⟩ := by unfold SameItem; decide
  obtain ⟨hexample, hindex, -, -, hsame, hitems⟩ := builtin_pages_tags
  obtain ⟨hnames, htags⟩ := hsame _ _ _ _ hframe (hexample hostilePage) (hexample plainPage)
  exact ⟨hframe, hrows, hitem, hnames, htags hrows,
    hitems _ _ _ _ _ _ (.cons hitem .nil) (hindex _ _) (hindex _ _)⟩

end LiterateSite.Template
