import LiterateSite.Proofs.Site.Order
import LiterateSite.Proofs.Site.Rebuild
import LiterateSite.Proofs.Template.Pages

/-!
# What the order of the examples is seen in

* `Content`, `between`: what a page shows, without the neighbours and with them.
* `PageShows`, `Lists`, `Presents`: **a site that shows some pages in some order.**
  `Built.presents`: a build leaves such a site.
* `order_is_navigation`: **the order is seen in the neighbours of the pages and in the index, and
  nowhere else.**
* A manifest that is an input of an example is seen in what is kept.
-/

namespace LiterateSite.Site

open Files Files.Tree Text Building

variable {b : Builder} {m : Path} {theme theme₁ theme₂ : Highlight.Theme}
  {ids ids₁ ids₂ : List String} {id : String} {e : Entry}
  {s s' s₁ s₂ s₁' s₂' start start₁ start₂ last last₁ last₂ : Session}
  {r r₁ r₂ : BuildResult} {pages pages₁ pages₂ : List MadePage} {html html₁ html₂ : List Char}
  {t : Tree} {source : List UInt8} {text : List Char} {shown : Template.ExamplePage}

/-! ## What pages show -/

/-- A page, between the neighbours of an entry. -/
def between (shown : Template.ExamplePage) (e : Entry) : Template.ExamplePage :=
  { shown with previous := e.previous.map String.toList, next := e.next.map String.toList }

/-- What the index tells of a page. -/
def listed (shown : Template.ExamplePage) : Template.IndexEntry :=
  { id := shown.id, name := shown.name, description := shown.description }

/-- An example for the page of an id, made of the source; it has no neighbours. -/
def Builder.alone (b : Builder) (id : String) (source : List UInt8) : Example :=
  Example.ofEntry (entryOf b.layout none id none)
    (Source.Example.read (Utf8.decodeLossy source) b.config.headerLines) (sourceDigest id source)

/-- **What the page of an id shows**, made of the source and the transcript. -/
def Content (b : Builder) (theme : Highlight.Theme) (id : String) (source : List UInt8)
    (text : List Char) (shown : Template.ExamplePage) : Prop :=
  ∃ markup rows, (b.look theme).transcript text = .ok markup ∧
    (b.look theme).rows (b.alone id source) markup = .ok rows ∧
    shown = (b.look theme).examplePage (b.alone id source) rows

theorem Content.unique {shown' : Template.ExamplePage} (h : Content b theme id source text shown)
    (h' : Content b theme id source text shown') : shown = shown' := by
  obtain ⟨markup, rows, hmarkup, hrows, rfl⟩ := h
  obtain ⟨markup', rows', hmarkup', hrows', rfl⟩ := h'
  obtain rfl := Except.ok.inj (hmarkup.symm.trans hmarkup')
  obtain rfl := Except.ok.inj (hrows.symm.trans hrows')
  rfl

theorem of_pageOf {x : Example} {templates : Template.Source}
    (h : b.pageOf theme x text templates = .ok html) :
    ∃ markup rows, (b.look theme).transcript text = .ok markup ∧
      (b.look theme).rows x markup = .ok rows ∧
      Template.renderExample templates ((b.look theme).examplePage x rows) = .ok html := by
  unfold Builder.pageOf at h
  cases hmarkup : (b.look theme).transcript text with
  | error err => rw [hmarkup] at h; cases h
  | ok markup =>
    rw [hmarkup] at h
    simp only at h
    cases hrows : (b.look theme).rows x markup with
    | error err => rw [hrows] at h; cases h
    | ok rows =>
      rw [hrows] at h
      simp only at h
      split at h
      · cases h
      · next hrender =>
        cases h
        exact ⟨markup, rows, rfl, hrows, hrender⟩

/-- The page of an entry is that of its id, but for the neighbours. -/
theorem MadePage.shown_eq {p : MadePage} (he : p.entry ∈ entriesOf b.layout ids)
    (hdigest : p.transcript.digest = sourceDigest p.entry.id p.source) :
    p.shown b = { b.alone p.entry.id p.source with
      previous := p.entry.previous, next := p.entry.next } := by
  obtain ⟨before, after, -, he⟩ := Layout.mem_entriesFrom he
  unfold MadePage.shown Builder.alone
  rw [hdigest]
  generalize p.entry = e at he
  rw [he]
  rfl

/-- **A page is rendered** from its content between the neighbours. -/
theorem content_of_pageOf {p : MadePage} {templates : Template.Source}
    (he : p.entry ∈ entriesOf b.layout ids)
    (hdigest : p.transcript.digest = sourceDigest p.entry.id p.source)
    (h : b.pageOf theme (p.shown b) p.transcript.text templates = .ok html) :
    ∃ shown, Content b theme p.entry.id p.source p.transcript.text shown ∧
      (p.shown b).indexEntry = listed shown ∧
      Template.renderExample templates (between shown p.entry) = .ok html := by
  rw [MadePage.shown_eq he hdigest] at h ⊢
  -- the rows do not depend on the neighbours
  obtain ⟨markup, rows, hmarkup, hrows, hrender⟩ := of_pageOf h
  exact ⟨_, ⟨markup, rows, hmarkup, hrows, rfl⟩, rfl, hrender⟩

/-! ## Sites that show pages -/

/-- **The page of an entry shows `shown`**: that is made of the source and the transcript that are
there, and the page is rendered from it, between the neighbours of the entry, with templates of the
site. -/
structure PageShows (b : Builder) (shown : Template.ExamplePage) (e : Entry) (t : Tree) : Prop where
  content : ∃ theme source text, Highlight.Theme.find b.config.theme = .ok theme ∧
    Current b.layout e.id source text t ∧ Content b theme e.id source text shown
  rendered : ∃ html templates, t.read (b.outputPath (e.id ++ ".html")) = .ok (Utf8.encode html) ∧
    b.Supplies templates ∧ Template.renderExample templates (between shown e) = .ok html

/-- **The index lists some examples**: it is rendered from what is told of them. -/
def Lists (b : Builder) (examples : List Template.IndexEntry) (t : Tree) : Prop :=
  ∃ html templates, t.read (b.outputPath "index.html") = .ok (Utf8.encode html) ∧
    b.Supplies templates ∧
    Template.renderIndex templates b.config.title.toList examples = .ok html

/-- **A site shows the pages `shown` in the order of some ids.** -/
structure Presents (b : Builder) (shown : String → Template.ExamplePage) (ids : List String)
    (t : Tree) : Prop where
  pages : ∀ e ∈ entriesOf b.layout ids, PageShows b (shown e.id) e t
  index : Lists b (ids.map fun id => listed (shown id)) t

/-! ### With the built-in templates -/

/-- A built-in template stays one unless the directory has another one of its name. -/
theorem Builder.Supplies.keeps {templates : Template.Source} (h : b.Supplies templates)
    {name : String} {source : List Char} (hb : Template.builtin? name.toList = some source)
    (hn : name ∉ b.templates.overridden) : templates.Keeps name := by
  have hnot : (b.templates.overridden.any fun known => known.toList == name.toList) = false := by
    rw [List.any_eq_false]
    intro known hknown hsame
    exact hn (String.toList_inj.1 (beq_iff_eq.1 hsame) ▸ hknown)
  obtain ⟨u, hu⟩ := h name.toList
  unfold Template.Source.Keeps Template.Source.builtin
  rw [hu, hb]
  refine Templates.source_of_known ?_
  unfold Templates.known? Templates.builtin?
  rw [hnot, hb]
  rfl

/-- **The links to the neighbours** of an entry. -/
def Entry.pager (e : Entry) : List Char :=
  Template.pagerText (e.previous.map String.toList) (e.next.map String.toList)

/-- **Pages with pagers**: the text above the pager depends on the id only. -/
def Builder.PagesAround (b : Builder) (above : String → List Char) (below : List Char)
    (ids : List String) (t : Tree) : Prop :=
  ∀ e ∈ entriesOf b.layout ids, t.read (b.outputPath (e.id ++ ".html")) =
    .ok (Utf8.encode (above e.id ++ (e.pager ++ below)))

/-- **An index with an item for each of some ids**, in their order. -/
def Builder.IndexAround (b : Builder) (above : List Char) (item : String → List Char)
    (below : List Char) (ids : List String) (t : Tree) : Prop :=
  t.read (b.outputPath "index.html") = .ok (Utf8.encode (above ++ (ids.flatMap item ++ below)))

section builtin

variable {shown : String → Template.ExamplePage} (h : Presents b shown ids t)
  (hb : Template.baseName ∉ b.templates.overridden)

include h hb

/-- **A built-in page**: of the neighbours only the pager tells. -/
theorem Presents.builtin_pages (he : Template.exampleName ∉ b.templates.overridden) :
    b.PagesAround (fun id => Template.abovePager (shown id)) Template.belowPager ids t := by
  intro e hmem
  obtain ⟨html, templates, hread, hsupplies, hrender⟩ := (h.pages e hmem).rendered
  rw [Template.renderExample_builtin (hsupplies.keeps rfl hb) (hsupplies.keeps rfl he)] at hrender
  rw [hread, ← Except.ok.inj hrender]
  rfl

/-- **The built-in index**: of the order only the list tells. -/
theorem Presents.builtin_index (hi : Template.indexName ∉ b.templates.overridden) :
    b.IndexAround (Template.aboveList b.config.title.toList)
      (fun id => Template.itemText (listed (shown id))) Template.belowList ids t := by
  obtain ⟨html, templates, hread, hsupplies, hrender⟩ := h.index
  rw [Template.renderIndex_builtin (hsupplies.keeps rfl hb) (hsupplies.keeps rfl hi),
    List.flatMap_map] at hrender
  unfold Builder.IndexAround
  rw [hread, ← Except.ok.inj hrender]

end builtin

/-! ## Builds -/

namespace Built

variable (h : Built b s r s' theme (entriesOf b.layout ids) pages html start last)
  (hl : s.files.Linkless) (hf : ∀ t p, (b.runner.run t p).files = t)
  (ha : Placed b ids s.files.workDir)

include h hl hf ha

/-- **What the pages of a build show.** -/
theorem content : ∀ p ∈ pages, ∃ shown,
    Content b theme p.entry.id p.source p.transcript.text shown ∧
    (p.shown b).indexEntry = listed shown ∧
    ∃ templates, b.Supplies templates ∧
      Template.renderExample templates (between shown p.entry) = .ok p.html := by
  intro p hp
  obtain ⟨templates, hsupplies, hrendered⟩ := h.page_rendered p hp
  obtain ⟨shown, hcontent, hlisted, hrender⟩ :=
    content_of_pageOf (h.entry_mem p hp) (h.digest_eq hl hf ha p hp) hrendered
  exact ⟨shown, hcontent, hlisted, templates, hsupplies, hrender⟩

/-- **A build leaves a site that shows its pages** in the order of its ids. -/
theorem presents (hfree : "index" ∉ ids) {shown : String → Template.ExamplePage}
    (hshown : ∀ p ∈ pages,
      Content b theme p.entry.id p.source p.transcript.text (shown p.entry.id)) :
    Presents b shown ids s'.files := by
  have hstanding := h.standing hl hf ha hfree
  refine ⟨fun e he => ?_, html, b.sourceAt last, h.index_there hl hf, h.index_made, ?_⟩
  · rw [← h.entries_eq] at he
    obtain ⟨p, hp, rfl⟩ := List.mem_map.1 he
    obtain ⟨shown', hcontent, -, templates, hsupplies, hrender⟩ := h.content hl hf ha p hp
    obtain rfl := hcontent.unique (hshown p hp)
    exact ⟨⟨theme, p.source, p.transcript.text, h.theme_found, (hstanding p hp).current,
      hcontent⟩, p.html, templates, (hstanding p hp).page, hsupplies, hrender⟩
  · have hlist : (pages.map fun p => (p.shown b).indexEntry) =
        ids.map fun id => listed (shown id) := by
      rw [← h.ids_eq, List.map_map]
      refine List.map_congr_left fun p hp => ?_
      obtain ⟨shown', hcontent, hlisted, -⟩ := h.content hl hf ha p hp
      rw [hlisted, hcontent.unique (hshown p hp)]
      rfl
    rw [← hlist]
    exact h.index_rendered

/-- There is one page for each id. -/
theorem choose_content : ∃ shown : String → Template.ExamplePage, ∀ p ∈ pages,
    Content b theme p.entry.id p.source p.transcript.text (shown p.entry.id) := by
  have hone : ∀ id, ∃ shown, ∀ p ∈ pages, p.entry.id = id →
      Content b theme id p.source p.transcript.text shown := by
    intro id
    by_cases hid : ∃ p ∈ pages, p.entry.id = id
    · obtain ⟨p, hp, rfl⟩ := hid
      obtain ⟨shown, hcontent, -⟩ := h.content hl hf ha p hp
      refine ⟨shown, fun q hq hid => ?_⟩
      obtain rfl := List.inj_on_of_nodup_map (page_ids_nodup ha.distinct h.entries_eq) hq hp hid
      exact hcontent
    · exact ⟨default, fun p hp he => absurd ⟨p, hp, he⟩ hid⟩
  choose shown hshown using hone
  exact ⟨shown, fun p hp => hshown p.entry.id p hp rfl⟩

end Built

/-- **Both builds show the same pages**, each in its own order. -/
theorem Reordered.presents (h : Reordered b m ids₁ ids₂ s₁.files s₂.files) (hr : b.runner.Steady)
    (hc₁ : Built b s₁ r₁ s₁' theme₁ (entriesOf b.layout ids₁) pages₁ html₁ start₁ last₁)
    (hc₂ : Built b s₂ r₂ s₂' theme₂ (entriesOf b.layout ids₂) pages₂ html₂ start₂ last₂) :
    ∃ shown, Presents b shown ids₁ s₁'.files ∧ Presents b shown ids₂ s₂'.files := by
  obtain rfl := (h.same_sheets hr hc₁ hc₂).1
  obtain ⟨shown, hshown⟩ := hc₁.choose_content h.linkless₁ hr.files h.placed
  refine ⟨shown, hc₁.presents h.linkless₁ hr.files h.placed h.index_free hshown,
    hc₂.presents h.linkless₂ hr.files h.placed₂ h.index_free₂ fun p₂ hp₂ => ?_⟩
  -- the page of the same id in the other build has been made of the same
  obtain ⟨p₁, hp₁, hid⟩ := hc₁.page_of_id (h.perm.mem_iff.2 (hc₂.id_mem hp₂))
  have hsame := h.same_page hr hc₁ hc₂ p₁ hp₁ p₂ hp₂ hid
  rw [← hid, ← hsame.source, ← hsame.text]
  exact hshown p₁ hp₁

/-- **The order of the examples is seen in the navigation only.** Two builds succeed that begin with
the same files, but for the content of the manifest, which lists the same ids in another order. They
tell the same, have run the same sources, and leave the same style sheets and kept files. Both sites
show the same pages, each between its neighbours, and list them in the index, each in its order.
With the built-in templates, the pages are the same but for the links to the neighbours, and so is
the index but for the order of its items. -/
theorem order_is_navigation (h : Reordered b m ids₁ ids₂ s₁.files s₂.files)
    (hr : b.runner.Steady) (h₁ : b.build s₁ = (.ok r₁, s₁')) (h₂ : b.build s₂ = (.ok r₂, s₂')) :
    r₁ = r₂ ∧
    (∃ ran₁ ran₂, s₁'.runs = s₁.runs ++ ran₁ ∧ s₂'.runs = s₂.runs ++ ran₂ ∧ ran₁.Perm ran₂) ∧
    (∀ f, f ∈ b.sheets ∨ (∃ id ∈ ids₁, f ∈ Set.range (b.layout.keptOf id)) →
      ∃ content, s₁'.files.read f = .ok content ∧ s₂'.files.read f = .ok content) ∧
    (∃ shown, Presents b shown ids₁ s₁'.files ∧ Presents b shown ids₂ s₂'.files) ∧
    (Template.baseName ∉ b.templates.overridden →
      (Template.exampleName ∉ b.templates.overridden → ∃ above below,
        b.PagesAround above below ids₁ s₁'.files ∧ b.PagesAround above below ids₂ s₂'.files) ∧
      (Template.indexName ∉ b.templates.overridden → ∃ above item below,
        b.IndexAround above item below ids₁ s₁'.files ∧
          b.IndexAround above item below ids₂ s₂'.files)) := by
  obtain ⟨theme₁, pages₁, html₁, start₁, last₁, hc₁⟩ := built_of_enumerated h.listed₁ h₁
  obtain ⟨theme₂, pages₂, html₂, start₂, last₂, hc₂⟩ := built_of_enumerated h.listed₂ h₂
  obtain ⟨hresult, hruns⟩ := h.runs_result hr hc₁ hc₂
  obtain ⟨shown, hsite₁, hsite₂⟩ := h.presents hr hc₁ hc₂
  refine ⟨hresult, hruns, ?_, ⟨shown, hsite₁, hsite₂⟩, fun hb => ⟨fun he => ?_, fun hi => ?_⟩⟩
  · rintro f (hsheet | ⟨id, hid, k, rfl⟩)
    · exact (h.same_sheets hr hc₁ hc₂).2 f hsheet
    · obtain ⟨p₁, hp₁, rfl⟩ := hc₁.page_of_id hid
      obtain ⟨p₂, hp₂, hsame⟩ := hc₂.page_of_id (h.perm.mem_iff.1 hid)
      exact (h.same_page hr hc₁ hc₂ p₁ hp₁ p₂ hp₂ hsame.symm).kept k
  · exact ⟨_, _, hsite₁.builtin_pages hb he, hsite₂.builtin_pages hb he⟩
  · exact ⟨_, _, _, hsite₁.builtin_index hb hi, hsite₂.builtin_index hb hi⟩

/-! ## Small sites -/

theorem steady_echo : echo.Steady := by
  refine ⟨fun _ _ => rfl, fun ht hu => ?_⟩
  unfold echo
  simp only [ht, hu]

/-- A tree with a manifest at a place. -/
def withManifest (t : Tree) (place : List String) (text : String) : Tree :=
  t.insert (locationOf place) (.file (Utf8.ofString text))

/-- **Two examples in both orders.** -/
theorem reordering_two {place : List String} {manifest : String}
    (hplace : (Path.ofString manifest).goal t.workDir = locationOf place)
    (hne : locationOf place ≠ [])
    (ha : OutputApart (listedBy manifest) ["a", "b"] t.workDir)
    (h₁ : (withManifest t place "a\nb\n").entries.all (fun x => !x.2.isLink) = true ∧
      (enumeratedIds (listedBy manifest).layout (withManifest t place "a\nb\n")).toOption =
        some ["a", "b"])
    (h₂ : (withManifest t place "b\na\n").entries.all (fun x => !x.2.isLink) = true ∧
      (enumeratedIds (listedBy manifest).layout (withManifest t place "b\na\n")).toOption =
        some ["b", "a"]) :
    Reordering (listedBy manifest) (Path.ofString manifest) ["a", "b"] ["b", "a"]
      (withManifest t place "a\nb\n") (withManifest t place "b\na\n") := by
  refine ⟨rfl, noLink_of_entries h₁.1, noLink_of_entries h₂.1, ⟨rfl, fun l hl => ?_⟩,
    toOption_eq_some.1 h₁.2, toOption_eq_some.1 h₂.2, List.Perm.swap _ _ _, ha.1.placed, ha.2.1⟩
  have hl : l ≠ locationOf place := fun he => hl (he.trans hplace.symm)
  unfold withManifest
  rw [get?_insert_of_ne hne _ hl, get?_insert_of_ne hne _ hl]

theorem outputApart_listedBy {manifest : String}
    (hm : ¬ oneExample.config.output.goal twoPages.workDir <:+
      (Path.ofString manifest).goal twoPages.workDir) :
    OutputApart (listedBy manifest) ["a", "b"] twoPages.workDir := by
  have ha := arranged_twoPages
  have hroot : ¬ oneExample.config.output.goal twoPages.workDir <:+
      oneExample.layout.root twoPages.workDir := by decide
  have htemplates : ∀ d ∈ oneExample.templates.directory,
      ¬ d.goal twoPages.workDir <:+ oneExample.config.output.goal twoPages.workDir ∧
        ¬ oneExample.config.output.goal twoPages.workDir <:+ d.goal twoPages.workDir := by decide
  refine ⟨⟨ha.distinct, ha.plain, ha.extension, ha.not_kept, ha.output_way, ha.output_ne, ?_⟩,
    by decide, hroot, htemplates⟩
  rintro m hmanifest
  cases hmanifest
  exact hm

theorem reordered_two :
    Reordered (listedBy "order.txt") (Path.ofString "order.txt") ["a", "b"] ["b", "a"]
      (withManifest twoPages ["order.txt"] "a\nb\n")
      (withManifest twoPages ["order.txt"] "b\na\n") := by
  have hkept : ∀ id ∈ ["a", "b"], ∀ ext ∈ ["js", "hash", "transcript"],
      (Path.ofString "order.txt").goal twoPages.workDir ≠
        oneExample.layout.beside twoPages.workDir id ext := by decide
  refine ⟨reordering_two (by decide) (by decide) (outputApart_listedBy (by decide))
    ⟨by decide, by decide +kernel⟩ ⟨by decide, by decide +kernel⟩,
    fun id hid => hkept id hid "js" (by decide), fun id hid k hgoal => ?_⟩
  refine absurd hgoal (hkept id hid k.suffix ?_)
  cases k <;> decide

/-- Two examples in both orders: the same is told of both builds, and the same digest is kept. -/
theorem order_is_navigation_two :
    let b := listedBy "order.txt"
    let first := b.build { files := withManifest twoPages ["order.txt"] "a\nb\n" }
    let second := b.build { files := withManifest twoPages ["order.txt"] "b\na\n" }
    (∃ r, first.1 = .ok r ∧ second.1 = .ok r) ∧ first.2.runs.Perm second.2.runs ∧
      ∃ content, first.2.files.read (b.layout.keptOf "a" .digest) = .ok content ∧
        second.2.files.read (b.layout.keptOf "a" .digest) = .ok content := by
  have hsteady : (listedBy "order.txt").runner.Steady := steady_echo
  have hfirst : ((listedBy "order.txt").build
      { files := withManifest twoPages ["order.txt"] "a\nb\n" }).1.toOption.isSome = true := by
    decide +kernel
  have hsecond : ((listedBy "order.txt").build
      { files := withManifest twoPages ["order.txt"] "b\na\n" }).1.toOption.isSome = true := by
    decide +kernel
  have hmem : "a" ∈ ["a", "b"] := by decide
  have hreordered : Reordered (listedBy "order.txt") (Path.ofString "order.txt")
      ["a", "b"] ["b", "a"]
      ({ files := withManifest twoPages ["order.txt"] "a\nb\n" } : Session).files
      ({ files := withManifest twoPages ["order.txt"] "b\na\n" } : Session).files := reordered_two
  -- from here on it does not matter what the site is
  generalize listedBy "order.txt" = b at *
  generalize withManifest twoPages ["order.txt"] "a\nb\n" = t₁ at *
  generalize withManifest twoPages ["order.txt"] "b\na\n" = t₂ at *
  obtain ⟨r₁, s₁', h₁⟩ := Building.ok_of_isSome hfirst
  obtain ⟨r₂, s₂', h₂⟩ := Building.ok_of_isSome hsecond
  obtain ⟨rfl, ⟨ran₁, ran₂, hruns₁, hruns₂, hperm⟩, hkept, -⟩ :=
    order_is_navigation hreordered hsteady h₁ h₂
  obtain ⟨content, hread⟩ := hkept _ (.inr ⟨"a", hmem, .digest, rfl⟩)
  intro b' first second
  have hfirst' : first = (.ok r₁, s₁') := h₁
  have hsecond' : second = (.ok r₁, s₂') := h₂
  rw [hfirst', hsecond']
  refine ⟨⟨r₁, rfl, rfl⟩, ?_, content, hread⟩
  rw [hruns₁, hruns₂]
  exact hperm

/-- The transcript of an example is a manifest, and it is up to date. -/
def listedByTranscript (text : String) : Tree :=
  withManifest (twoPages.insert (locationOf ["examples", "a", "a.hash"])
    (.file (Utf8.ofString (sourceDigest "a" [])))) ["examples", "a", "a.transcript"] text

/-- **A manifest that is an input of an example**: what is kept of the example depends on the order.
If the manifest is the source, the digest is another one; if it is a transcript that is up to date,
it stays as it is. -/
theorem order_in_kept_files :
    (let b := listedBy "examples/a/a.js"
      let t₁ := withManifest twoPages ["examples", "a", "a.js"] "a\nb\n"
      let t₂ := withManifest twoPages ["examples", "a", "a.js"] "b\na\n"
      (Reordering b (Path.ofString "examples/a/a.js") ["a", "b"] ["b", "a"] t₁ t₂ ∧
        OutputApart b ["a", "b"] t₁.workDir ∧ b.runner.Steady) ∧
      ((b.build { files := t₁ }).1.isOk = true ∧ (b.build { files := t₂ }).1.isOk = true) ∧
      (b.build { files := t₁ }).2.files.content? (b.layout.keptOf "a" .digest) ≠
        (b.build { files := t₂ }).2.files.content? (b.layout.keptOf "a" .digest)) ∧
    (let b := listedBy "examples/a/a.transcript"
      let t₁ := listedByTranscript "a\nb\n"
      let t₂ := listedByTranscript "b\na\n"
      (Reordering b (Path.ofString "examples/a/a.transcript") ["a", "b"] ["b", "a"] t₁ t₂ ∧
        OutputApart b ["a", "b"] t₁.workDir ∧ b.runner.Steady) ∧
      ((b.build { files := t₁ }).1.isOk = true ∧ (b.build { files := t₂ }).1.isOk = true) ∧
      (b.build { files := t₁ }).2.files.content? (b.layout.keptOf "a" .transcript) ≠
        (b.build { files := t₂ }).2.files.content? (b.layout.keptOf "a" .transcript)) := by
  have hsource := @outputApart_listedBy "examples/a/a.js" (by decide)
  have htranscript := @outputApart_listedBy "examples/a/a.transcript" (by decide)
  refine ⟨⟨⟨reordering_two (by decide) (by decide) hsource ⟨by decide, by decide +kernel⟩
      ⟨by decide, by decide +kernel⟩, hsource, steady_echo⟩, ?_⟩,
    ⟨reordering_two (by decide) (by decide) htranscript ⟨by decide, by decide +kernel⟩
      ⟨by decide, by decide +kernel⟩, htranscript, steady_echo⟩, ?_⟩
  · decide +kernel
  · decide +kernel

end LiterateSite.Site
