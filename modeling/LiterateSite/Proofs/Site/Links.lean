import LiterateSite.Proofs.Files.Way
import LiterateSite.Proofs.Template.Hrefs
import LiterateSite.Site.Build

/-!
# Where the links of a site lead

The pages are written to the output directory, each under the name of its id, and they link to each
other by references that are made of ids, too.

* `goal_page`: the place of the page of an id.
* `linked?`: the path that a reader takes a link for. `linked?_hrefOf`: **a link leads to the page
  of its id exactly if the id can stand in a reference as it is.**
* `links_lead_to_pages`: the links of the pages and of the index, and where they lead.
* `link_cut_at_fragment`: an id that cannot stand in a reference.
-/

namespace LiterateSite.Site

open Files Text

variable {b : Builder} {s : Template.Source} {w : Location} {id : String}

/-- **The place of the page of an id**: a name in the output directory. -/
theorem goal_page (b : Builder) (w : Location) (h : '/' ∉ id.toList) :
    (b.outputPath (id ++ ".html")).goal w =
      .text (id ++ ".html").toList :: b.config.output.goal w := by
  have hname : (id ++ ".html").toList = id.toList ++ Reference.ending := String.toList_append
  have hne : ∀ short : List Char, short.length < 5 → id.toList ++ Reference.ending ≠ short := by
    rintro short hshort rfl
    rw [List.length_append] at hshort
    exact absurd hshort (Nat.not_lt.2 (Nat.le_add_left 5 _))
  refine Path.goal_join_plain ?_
  rw [hname]
  refine ⟨hne _ (by decide), ?_, hne _ (by decide), hne _ (by decide)⟩
  rw [List.mem_append, not_or]
  exact ⟨h, by decide⟩

/-- **The path that a reader takes a link for**, beside the page that it is on. -/
def linked? (names : Template.Names) (href : List Char) : Option (List UInt8) :=
  Reference.relativePath? (names.decode href)

/-- **A link leads to the page of its id** exactly if the id can stand in a reference as it is. -/
theorem linked?_hrefOf (names : Template.Names) (id : String) :
    linked? names (Template.hrefOf id.toList) = some (Utf8.encode (id ++ ".html").toList) ↔
      Reference.Portable id.toList := by
  have hname : (id ++ ".html").toList = id.toList ++ Reference.ending := String.toList_append
  unfold linked?
  rw [Template.decode_hrefOf, hname, Reference.relativePath?_eq_some_iff,
    Reference.portable_append_ending]

/-- **The links of a site, and where they lead.** The pager of a page links to its neighbours, and
the index to all examples. What a link names beside the page that it is on is the name of the page
of its id, provided that the id has no question mark and no number sign, nothing that looks like the
code of a byte, and does not begin like a scheme. -/
theorem links_lead_to_pages (names : Template.Names) (b : Builder) (w : Location)
    (hb : s.Keeps Template.baseName) (he : s.Keeps Template.exampleName)
    (hi : s.Keeps Template.indexName) (p : Template.ExamplePage) (siteTitle : List Char)
    (examples : List Template.IndexEntry) :
    let neighbours := (p.previous.toList ++ p.next.toList).filter (· ≠ [])
    let pager := Template.pagerText p.previous p.next
    ∃ page index,
      Template.renderExample s p = .ok page ∧
      page = Template.abovePager p ++ (pager ++ Template.belowPager) ∧
      Template.hrefs pager = neighbours.map Template.hrefOf ∧
      ((∀ r ∈ p.rows, r.Closed) → Template.hrefs page =
        Template.sheetHrefs ++ ("index.html".toList ::
          (p.rows.flatMap fun r => Template.hrefs r.markdown ++ Template.hrefs r.codeBlock)) ++
          neighbours.map Template.hrefOf) ∧
      Template.renderIndex s siteTitle examples = .ok index ∧
      Template.hrefs index = Template.sheetHrefs ++ examples.map (fun e => Template.hrefOf e.id) ∧
      ∀ id : String, '/' ∉ id.toList →
        (b.outputPath (id ++ ".html")).goal w =
          .text (id ++ ".html").toList :: b.config.output.goal w ∧
        (linked? names (Template.hrefOf id.toList) = some (Utf8.encode (id ++ ".html").toList) ↔
          Reference.Portable id.toList) := by
  intro neighbours pager
  refine ⟨_, _, Template.renderExample_builtin hb he p, rfl, Template.hrefs_pagerText _ _,
    Template.hrefs_examplePage, Template.renderIndex_builtin hb hi siteTitle examples,
    Template.hrefs_index siteTitle examples, fun id hid => ⟨goal_page b w hid, ?_⟩⟩
  exact linked?_hrefOf names id

/-- The links to an example with a plain name. -/
theorem links_lead_to_pages_numbers :
    let entry : Template.IndexEntry := ⟨"numbers".toList, "Numbers".toList, []⟩
    ∃ index, Template.renderIndex .builtin "Examples".toList [entry] = .ok index ∧
      Template.hrefs index = Template.sheetHrefs ++ ["numbers.html".toList] ∧
      linked? .marks "numbers.html".toList = some (Utf8.ofString "numbers.html") := by
  intro entry
  have hhref : Template.hrefOf "numbers".toList = "numbers.html".toList := by decide
  let p : Template.ExamplePage := ⟨[], [], [], [], none, some "numbers".toList, []⟩
  let b : Builder := { config := {}, templates := {}, runner := ⟨fun t _ => ⟨.ok [], t, []⟩⟩ }
  obtain ⟨page, index, -, -, -, -, hindex, hrefs, hlinks⟩ :=
    @links_lead_to_pages .builtin .marks b [] rfl rfl rfl p "Examples".toList [entry]
  have hlink := (hlinks "numbers" (by decide)).2.2 (by decide)
  rw [hhref] at hlink
  refine ⟨index, hindex, ?_, hlink⟩
  rw [hrefs, ← hhref]
  rfl

/-- **An id with a number sign**: its link ends in a fragment and leads elsewhere. -/
theorem link_cut_at_fragment :
    let entry : Template.IndexEntry := ⟨"c#".toList, "C#".toList, []⟩
    ∃ index, Template.renderIndex .builtin "S".toList [entry] = .ok index ∧
      Template.hrefs index = Template.sheetHrefs ++ ["c#.html".toList] ∧
      linked? .marks "c#.html".toList = some (Utf8.ofString "c") ∧
      Utf8.ofString "c" ≠ Utf8.ofString "c#.html" := by
  intro entry
  have hhref : Template.hrefOf "c#".toList = "c#.html".toList := by decide
  refine ⟨_, Template.renderIndex_builtin rfl rfl "S".toList [entry], ?_, by decide +kernel,
    by decide⟩
  rw [Template.hrefs_index, ← hhref]
  rfl

end LiterateSite.Site
