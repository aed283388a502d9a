import LiterateSite.Proofs.Site.Course

/-!
# Sites that have been built

* `SparesTemplates`, `templates_stay`: paths that do not lead into the templates, and **templates
  that stay as they are**.
* `Finished`: **what a successful build leaves**, with some examples whose sources have been changed
  since. `finished_of_build`: it does.
* `Finished.again`: **a build of a finished site succeeds and changes nothing.**
-/

namespace LiterateSite.Site

open Files Files.Tree Text Building

variable {b : Builder} {theme : Highlight.Theme} {ids : List String} {id : String} {e : Entry}
  {w : Location} {P Q : Set Path} {s mid s' : Session} {t t' : Tree} {source : List UInt8}
  {x : Transcript} {p : MadePage} {pages : List MadePage}

/-! ## Templates -/

/-- None of the paths leads into the directory of the templates. -/
def SparesTemplates (b : Builder) (w : Location) (P : Set Path) : Prop :=
  ∀ d, b.templates.directory = some d → ∀ p ∈ P, ¬ d.goal w <:+ (p.goal w).tail

theorem SparesTemplates.sub (h : SparesTemplates b w P) (hs : Q ⊆ P) : SparesTemplates b w Q :=
  fun d hd p hp => h d hd p (hs hp)

/-- **Templates stay as they are** while other files are changed, whatever has been loaded. -/
theorem templates_stay (hl : t.Linkless)
    (hd : ∀ d, b.templates.directory = some d → t.isDir d = true) (hr : Rewrites P t t')
    (hP : SparesTemplates b t.workDir P) {ts : Templates}
    (hts : ts.directory = b.templates.directory) : ts.source t' = ts.source t := by
  refine templates_congr fun d hdir => (sourceIn_congr hr.workDir.symm (fun l hl' => ?_)
    fun l _ => hl l).symm
  rw [hts] at hdir
  have hway := (way_of_isDir (fun k _ => hl k) (hd d hdir)).2
  have hkeep : ∀ k ∈ d.way t.workDir, t.get? k = t'.get? k := fun k hk =>
    (hway k hk).trans (hr.directory (hway k hk)).symm
  rcases hl' with hl' | hl'
  · exact hkeep l hl'
  · refine Classical.by_cases (fun he : l = d.goal t.workDir => ?_) fun hne => ?_
    · exact hkeep l (he ▸ Path.goal_mem_way _ _)
    · -- a place below the directory
      refine (hr.get?_eq fun p hp hgoal => hP d hdir p hp ?_).symm
      rw [hgoal]
      cases l with
      | nil => exact absurd (List.suffix_nil.1 hl').symm hne
      | cons n l =>
        rcases List.suffix_cons_iff.1 hl' with he | hs
        · exact absurd he.symm hne
        · exact hs

theorem sourceAt_stays (hl : s.files.Linkless)
    (hd : ∀ d, b.templates.directory = some d → s.files.isDir d = true)
    (hr : Rewrites P s.files s'.files) (hP : SparesTemplates b s.files.workDir P)
    (hloaded : s'.loaded = s.loaded) : b.sourceAt s' = b.sourceAt s := by
  unfold Builder.sourceAt Builder.templatesAt
  rw [hloaded]
  exact templates_stay hl hd hr hP rfl

/-- The templates where nothing has been loaded yet. -/
theorem sourceAt_of_eq (h : s.loaded = b.templates.loaded) :
    b.sourceAt s = b.templates.source s.files := by
  unfold Builder.sourceAt Builder.templatesAt
  rw [h]

/-- **What a build writes** is not in the directory of the templates, if neither the output
directory nor one of the examples is. -/
theorem spares_products (hp : ∀ id ∈ ids, Path.PlainName id.toList)
    (ho : ∀ d, b.templates.directory = some d → ¬ d.goal w <:+ b.config.output.goal w)
    (ht : TemplatesApart b ids w) : SparesTemplates b w (b.products ids) := by
  intro d hd p hprod
  rcases goal_products hp hprod w with ⟨n, -, -, hgoal⟩ | ⟨id, hid, k, -, hgoal⟩
  · rw [hgoal]
    exact ho d hd
  · rw [hgoal]
    exact ht d hd id hid

/-! ## Finished sites -/

/-- **The setting of incremental builds.** Beside what `Arranged` says, no example goes by the name
of the index, neither the output directory nor one of the examples is in the directory of the
templates, and the manifest is none of the sources and kept files. -/
structure Setting (b : Builder) (ids : List String) (w : Location) : Prop
    extends Arranged b ids w where
  index_free : "index" ∉ ids
  output_apart : ∀ d, b.templates.directory = some d → ¬ d.goal w <:+ b.config.output.goal w
  examples_apart : TemplatesApart b ids w
  no_source : ∀ m, b.layout.manifest = some m → ∀ id ∈ ids,
    m.goal w ≠ b.layout.beside w id b.config.extension
  no_kept : ∀ m, b.layout.manifest = some m → m.goal w ∉ keptPlaces b.layout w ids

/-- **What a successful build leaves.** The sheets, the pages and the index are there, and they are
what they would be rendered to again. The kept files are up to date, but for those of the ids of
`D`, whose sources have been changed since. -/
structure Finished (b : Builder) (ids : List String) (D : Set String) (theme : Highlight.Theme)
    (pages : List MadePage) (t : Tree) : Prop where
  linkless : t.Linkless
  setting : Setting b ids t.workDir
  enumerated : enumeratedIds b.layout t = .ok ids
  templates : ∀ d, b.templates.directory = some d → t.isDir d = true
  theme_found : Highlight.Theme.find b.config.theme = .ok theme
  entries_eq : pages.map MadePage.entry = entriesOf b.layout ids
  sheets : ∃ code, b.highlighter.stylesheet theme = .ok code ∧
    t.read (b.outputPath "site.css") =
      .ok (Utf8.encode (Style.finish Style.layout b.config.minify).1) ∧
    t.read (b.outputPath "code.css") =
      .ok (Utf8.encode (Style.finish code.toList b.config.minify).1)
  digests : ∀ p ∈ pages, p.transcript.digest = sourceDigest p.entry.id p.source
  rendered : ∀ p ∈ pages,
    b.pageOf theme (p.shown b) p.transcript.text (b.templates.source t) = .ok p.html
  index : ∃ html, Template.renderIndex (b.templates.source t) b.config.title.toList
      (pages.map fun p => (p.shown b).indexEntry) = .ok html ∧
    t.read (b.outputPath "index.html") = .ok (Utf8.encode html)
  pages_there : ∀ p ∈ pages, t.read (b.outputPath p.name) = .ok (Utf8.encode p.html)
  current : ∀ p ∈ pages, p.entry.id ∉ D →
    Current b.layout p.entry.id p.source p.transcript.text t
  changed : ∀ p ∈ pages, p.entry.id ∈ D → ∃ source known, t.read p.entry.source = .ok source ∧
    t.read p.entry.hashPath = .ok known ∧
    trim (Utf8.decodeLossy known) ≠ (sourceDigest p.entry.id source).toList

/-- The page and the kept files of an example are there. -/
theorem Finished.made_there {D : Set String} (h : Finished b ids D theme pages t) (hid : id ∈ ids)
    (hD : id ∉ D) {f : Path} (hf : f ∈ b.made id) : ∃ content, t.read f = .ok content := by
  obtain ⟨p, hp, rfl⟩ : ∃ p ∈ pages, p.entry.id = id := by
    rw [← page_ids h.entries_eq] at hid
    exact List.mem_map.1 hid
  have hcurrent := h.current p hp hD
  rcases hf with rfl | ⟨k, rfl⟩
  · exact ⟨_, h.pages_there p hp⟩
  · exact hcurrent.kept_there k

section finishing

variable (hset : Setting b ids s.files.workDir) (hf : ∀ t p, (b.runner.run t p).files = t)
  (hl : s.files.Linkless) (hd : ∀ d, b.templates.directory = some d → s.files.isDir d = true)

include hset hf hl hd

/-- **Making a page** leaves the templates as they are. -/
theorem Makes.templates_stay (hm : Makes b theme p s mid s')
    (he : p.entry ∈ entriesOf b.layout ids) :
    b.sourceAt mid = b.sourceAt s ∧ b.sourceAt s' = b.sourceAt s := by
  have hspares : SparesTemplates b s.files.workDir (b.made p.entry.id) :=
    (spares_products hset.plain hset.output_apart hset.examples_apart).sub fun q hq =>
      .inr (.inr ⟨p.entry.id, Layout.id_mem he, hq⟩)
  have hcall := touches_ensureFresh hf p.entry p.source s hl
  rw [hm.answered] at hcall
  have hmid : b.sourceAt mid = b.sourceAt s := by
    refine sourceAt_stays hl hd hcall (hspares.sub fun q hq => ?_) (ensured hm.answered).loaded
    exact made_eq he ▸ .inr hq
  refine ⟨hmid, ?_⟩
  -- the page is written when its templates have been loaded
  obtain ⟨names, hloaded⟩ := hm.loaded
  have hdmid : ∀ d, b.templates.directory = some d → mid.files.isDir d = true :=
    fun d hdir => hcall.isDir (hd d hdir)
  have hpage : Rewrites {b.outputPath p.name} (mid.loading b names).files s'.files :=
    rewrites_write (hcall.linkless hl) hm.written
  rw [sourceAt_stays (s := mid.loading b names) (hcall.linkless hl) hdmid hpage ?_ hloaded,
    sourceAt_loading, hmid]
  show SparesTemplates b mid.files.workDir _
  rw [hcall.workDir]
  refine hspares.sub ?_
  rintro q rfl
  exact .inl rfl

end finishing

/-- **All pages are rendered with the templates that there are before the first one is made.** -/
theorem MakesAll.templates_stay (hm : MakesAll b theme s pages s')
    (hset : Setting b ids s.files.workDir) (hf : ∀ t p, (b.runner.run t p).files = t)
    (hl : s.files.Linkless) (hd : ∀ d, b.templates.directory = some d → s.files.isDir d = true)
    (he : ∀ p ∈ pages, p.entry ∈ entriesOf b.layout ids) :
    (∀ p ∈ pages, b.pageOf theme (p.shown b) p.transcript.text (b.sourceAt s) = .ok p.html) ∧
      b.sourceAt s' = b.sourceAt s := by
  induction hm with
  | nil => exact ⟨fun p hp => absurd hp List.not_mem_nil, rfl⟩
  | @cons p rest s mid s₁ s' hpage _ ih =>
    obtain ⟨hmid, hs₁⟩ := hpage.templates_stay hset hf hl hd (he p List.mem_cons_self)
    have hfirst := hpage.rewrites hf hl
    obtain ⟨hrest, hs'⟩ := ih (hfirst.workDir ▸ hset) (hfirst.linkless hl)
      (fun d hdir => hfirst.isDir (hd d hdir)) fun q hq => he q (List.mem_cons_of_mem _ hq)
    rw [hs₁] at hrest hs'
    refine ⟨fun q hq => ?_, hs'⟩
    rcases List.mem_cons.1 hq with rfl | hq
    · exact hmid ▸ hpage.page
    · exact hrest q hq

/-- What is made for pages is not in the directory of the templates. -/
theorem spares_written (hset : Setting b ids w)
    (he : ∀ p ∈ pages, p.entry ∈ entriesOf b.layout ids) :
    SparesTemplates b w {q | ∃ p ∈ pages, q ∈ p.written b} := by
  refine (spares_products hset.plain hset.output_apart hset.examples_apart).sub ?_
  rintro q ⟨p, hp, hq⟩
  exact .inr (.inr ⟨_, Layout.id_mem (he p hp), MadePage.written_subset (he p hp) hq⟩)

/-- **The templates are the same** when the index has been written. -/
theorem finishing_templates {start last : Session} {html : List Char}
    (hf : ∀ t p, (b.runner.run t p).files = t)
    (he : ∀ p ∈ pages, p.entry ∈ entriesOf b.layout ids) (hl : start.files.Linkless)
    (hm : MakesAll b theme start pages last)
    (hindex : last.files.write (b.outputPath "index.html") (Utf8.encode html) = .ok s'.files)
    (hset : Setting b ids start.files.workDir)
    (hd : ∀ d, b.templates.directory = some d → start.files.isDir d = true) :
    b.templates.source s'.files = b.templates.source start.files := by
  refine templates_stay hl hd (finishing_rewrites hf hl hm hindex) ?_ rfl
  rintro d hdir q (hq | rfl)
  · exact spares_written hset he d hdir q hq
  · rw [goal_outputPath (by decide)]
    exact hset.output_apart d hdir

/-- **A build that succeeds leaves a finished site.** -/
theorem finished_of_build {r : BuildResult} (hset : Setting b ids s.files.workDir)
    (hf : ∀ t p, (b.runner.run t p).files = t) (hl : s.files.Linkless)
    (hids : enumeratedIds b.layout s.files = .ok ids)
    (hd : ∀ d, b.templates.directory = some d → s.files.isDir d = true)
    (h : b.build s = (.ok r, s')) : ∃ theme pages, Finished b ids ∅ theme pages s'.files := by
  have hafter : enumeratedIds b.layout s'.files = .ok ids := by
    have hsame := build_ids hl hf hset.toArranged hids hset.no_kept
    rwa [h] at hsame
  obtain ⟨theme, pages, html, start, last, hbuilt⟩ := built_of_enumerated hids h
  have he := hbuilt.entry_mem
  have hmade := hbuilt.pages_made
  have hindex := hbuilt.index_written
  -- what there is before the pages are made
  have hl₂ := hbuilt.start_linkless hl
  have hset₂ : Setting b ids start.files.workDir := hbuilt.start_workDir hl ▸ hset
  have hd₂ : ∀ d, b.templates.directory = some d → start.files.isDir d = true := fun d hdir =>
    (hbuilt.start_rewrites hl).isDir
      ((createDirAll_grows fun k _ => hl k).isDir hl (hd d hdir))
  have hchange := finishing_rewrites hf hl₂ hmade hindex
  have htemplates := finishing_templates hf he hl₂ hmade hindex hset₂ hd₂
  obtain ⟨hrendered, hlast⟩ := hmade.templates_stay hset₂ hf hl₂ hd₂ he
  rw [sourceAt_of_eq hbuilt.prepared.loaded, ← htemplates] at hrendered hlast
  have hstanding := hbuilt.standing hl hf hset.toArranged.placed hset.index_free
  refine ⟨theme, pages, hchange.linkless hl₂, hchange.workDir ▸ hset₂, hafter,
    fun d hdir => hchange.isDir (hd₂ d hdir), hbuilt.theme_found, hbuilt.entries_eq,
    hbuilt.sheets_there hl hf hset.toArranged.placed,
    hbuilt.digest_eq hl hf hset.toArranged.placed, hrendered,
    ⟨html, hlast ▸ hbuilt.index_rendered, hbuilt.index_there hl hf⟩,
    fun p hp => (hstanding p hp).page, fun p hp _ => (hstanding p hp).current,
    fun p hp hD => absurd hD (Set.notMem_empty _)⟩

/-! ## Building a finished site -/

theorem Finished.withRunner {D : Set String} (h : Finished b ids D theme pages t)
    (runner : Runner) : Finished { b with runner } ids D theme pages t :=
  ⟨h.linkless, ⟨h.setting.toArranged.withRunner runner, h.setting.index_free,
    h.setting.output_apart, h.setting.examples_apart, h.setting.no_source, h.setting.no_kept⟩,
    h.enumerated, h.templates, h.theme_found, h.entries_eq, h.sheets, h.digests, h.rendered,
    h.index, h.pages_there, h.current, h.changed⟩

/-- The steps succeed, change no file and run nothing, and then the session has a property. -/
def Repeats {α : Type} (I : Session → Prop) (m : Building α) (a : α) (s : Session) : Prop :=
  ∃ s', m s = (.ok a, s') ∧ (s'.files = s.files ∧ s'.runs = s.runs) ∧ I s'

/-- The templates are what they would be if none had been loaded. -/
def Session.Rereads (b : Builder) (s : Session) : Prop :=
  b.sourceAt s = b.templates.source s.files

section repeats

variable {I J : Session → Prop}

theorem Repeats.bind {α β : Type} {m : Building α} {f : α → Building β} {a : α} {c : β}
    (h : Repeats I m a s) (hf : ∀ s', s'.files = s.files → I s' → Repeats J (f a) c s') :
    Repeats J (m >>= f) c s := by
  obtain ⟨s₁, hm, ⟨hfiles, hruns⟩, hI⟩ := h
  obtain ⟨s₂, hc, ⟨hfiles', hruns'⟩, hJ⟩ := hf s₁ hfiles hI
  exact ⟨s₂, (bind_ok hm).trans hc, ⟨hfiles'.trans hfiles, hruns'.trans hruns⟩, hJ⟩

theorem repeats_pure {α : Type} (a : α) (h : I s) : Repeats I (pure a) a s :=
  ⟨s, rfl, ⟨rfl, rfl⟩, h⟩

end repeats

/-- Writing what is there. -/
theorem repeats_write {q : Path} {content : List UInt8} (h : s.files.read q = .ok content) :
    Repeats (fun _ => True) (Building.write q content) () s :=
  ⟨_, write_ok (write_same h), ⟨rfl, rfl⟩, trivial⟩

/-- **Preparing** finds everything as it should be. -/
theorem Finished.prepare_again {D : Set String} (h : Finished b ids D theme pages s.files) :
    Repeats (Session.Rereads b) b.prepare (theme, entriesOf b.layout ids) s := by
  obtain ⟨code, hcode, hsite, hcss⟩ := h.sheets
  unfold Builder.prepare
  rw [h.theme_found]
  refine (repeats_pure (I := fun _ => True) theme trivial).bind fun s₁ h₁ _ => ?_
  have hcatalog : Repeats (fun _ => True) (catalog b.config.toLayout) (entriesOf b.layout ids)
      s₁ := by
    obtain ⟨hlisted, hfiles, hruns⟩ := catalog_of_enumerated (h₁ ▸ h.enumerated)
    exact ⟨_, Prod.ext hlisted rfl, ⟨hfiles, hruns⟩, trivial⟩
  refine hcatalog.bind fun s₂ h₂ _ => ?_
  rw [h₁] at h₂
  have hdir : Repeats (fun _ => True) (Building.createDirAll b.config.output) () s₂ := by
    refine ⟨_, createDirAll_ok (t := s₂.files) ?_, ⟨rfl, rfl⟩, trivial⟩
    rw [h₂]
    have hplain : Path.PlainName "site.css".toList := by decide
    exact createDirAll_same h.linkless hplain hsite
  refine hdir.bind fun s₃ h₃ _ => ?_
  rw [h₂] at h₃
  have hsheets : Repeats (fun _ => True) (b.writeSheets theme) () s₃ := by
    obtain ⟨s₄, ⟨hfiles, hruns, -⟩, hrun⟩ := writeSheets_run b theme s₃
    rw [hcode] at hrun
    rw [← h₃, ← hfiles] at hsite hcss
    obtain ⟨s₅, hwrite, ⟨hfiles', hruns'⟩, -⟩ : Repeats (fun _ => True) (do
        Building.write (b.outputPath "site.css")
          (Utf8.encode (Style.finish Style.layout b.config.minify).1)
        Building.write (b.outputPath "code.css")
          (Utf8.encode (Style.finish code.toList b.config.minify).1)) () s₄ :=
      (repeats_write hsite).bind fun s' hs' _ => repeats_write (hs' ▸ hcss)
    exact ⟨s₅, hrun.trans hwrite, ⟨hfiles'.trans hfiles, hruns'.trans hruns⟩, trivial⟩
  refine hsheets.bind fun s₄ _ _ => ?_
  -- from here on the templates are those of the builder
  have htake : Repeats (Session.Rereads b) b.takeTemplates PUnit.unit s₄ :=
    ⟨{ s₄ with loaded := b.templates.loaded }, rfl, ⟨rfl, rfl⟩, sourceAt_of_eq rfl⟩
  exact htake.bind fun s₅ _ hs₅ => repeats_pure _ hs₅

/-- **Making a page again** that stands. -/
theorem Finished.page_again (h : Finished b ids ∅ theme pages s.files) (hp : p ∈ pages)
    (hs : s.Rereads b) :
    Repeats (Session.Rereads b) (b.buildExample theme p.entry) (p.shown b, .hit) s := by
  have he : p.entry ∈ entriesOf b.layout ids := h.entries_eq ▸ List.mem_map_of_mem hp
  have hcurrent := h.current p hp (Set.notMem_empty _)
  have hread : s.files.read p.entry.source = .ok p.source := Layout.source_eq he ▸ hcurrent.read
  have hcall := ensureFresh_of_hit b.runner (hcurrent.lookUp he)
  rw [← h.digests p hp] at hcall
  obtain ⟨names, hpublish⟩ := publish_run b theme p.entry p.source
    ⟨p.transcript.text, p.transcript.digest, .hit⟩ (s.reporting (.cacheHit p.entry.id))
  unfold Repeats
  rw [buildExample_eq, bind_ok (read_ok hread), bind_ok hcall, hpublish]
  have hpage : b.pageOf theme (Example.ofEntry p.entry (Source.Example.read
      (Utf8.decodeLossy p.source) b.config.headerLines) p.transcript.digest) p.transcript.text
      (b.sourceAt (s.reporting (.cacheHit p.entry.id))) = .ok p.html := by
    rw [show b.sourceAt (s.reporting _) = b.sourceAt s from rfl, hs]
    exact h.rendered p hp
  have hwrite : (s.reporting (.cacheHit p.entry.id)).files.write
      (b.outputPath (p.entry.id ++ ".html")) (Utf8.encode p.html) = .ok s.files :=
    write_same (h.pages_there p hp)
  simp only [hpage, hwrite]
  exact ⟨_, rfl, ⟨rfl, rfl⟩, (sourceAt_loading b s names).trans hs⟩

/-- **Making all pages again.** -/
theorem Finished.pages_again (h : Finished b ids ∅ theme pages t) (some : List MadePage)
    (hsub : some ⊆ pages) : ∀ s : Session, s.files = t → s.Rereads b →
      Repeats (Session.Rereads b) ((some.map MadePage.entry).mapM (b.buildExample theme))
        (some.map fun p => (p.shown b, .hit)) s := by
  induction some with
  | nil =>
    intro s _ hs
    rw [List.map_nil, List.mapM_nil]
    exact repeats_pure _ hs
  | cons p rest ih =>
    rintro s rfl hs
    rw [List.map_cons, List.mapM_cons]
    refine (h.page_again (hsub List.mem_cons_self) hs).bind fun s₁ h₁ hs₁ => ?_
    have hrest := ih (fun q hq => hsub (List.mem_cons_of_mem _ hq)) s₁ h₁ hs₁
    exact hrest.bind fun s₂ _ hs₂ => repeats_pure _ hs₂

/-- **A build of a finished site** succeeds, runs nothing, and leaves all files as they are. -/
theorem Finished.again (h : Finished b ids ∅ theme pages s.files) : ∃ r s',
    b.build s = (.ok r, s') ∧ s'.files = s.files ∧ s'.runs = s.runs := by
  suffices hall : ∃ r, Repeats (fun _ => True) b.build r s by
    obtain ⟨r, s', hbuild, hsame, -⟩ := hall
    exact ⟨r, s', hbuild, hsame⟩
  refine ⟨resultOf b (entriesOf b.layout ids) (pages.map fun p => (p.shown b, .hit)), ?_⟩
  rw [build_eq]
  refine h.prepare_again.bind fun s₁ h₁ hs₁ => ?_
  have hpages := h.pages_again pages (fun _ hp => hp) s₁ h₁ hs₁
  rw [h.entries_eq] at hpages
  refine hpages.bind fun s₂ h₂ hs₂ => ?_
  obtain ⟨html, hhtml, hindex⟩ := h.index
  rw [← h₁, ← h₂] at hhtml hindex
  obtain ⟨names, hfinish⟩ := finish_run b (entriesOf b.layout ids)
    (pages.map fun p => (p.shown b, Status.hit)) s₂
  unfold Repeats
  rw [hfinish]
  have hrender : Template.renderIndex (b.sourceAt s₂) b.config.title.toList
      (((pages.map fun p => (p.shown b, Status.hit)).map (·.1)).map Example.indexEntry) =
        .ok html := by
    rw [List.map_map, List.map_map, hs₂]
    exact hhtml
  simp only [hrender, write_same hindex]
  exact ⟨_, rfl, ⟨rfl, rfl⟩, trivial⟩

end LiterateSite.Site
