import LiterateSite.Proofs.Site.Current

/-!
# The course of a build that succeeds

With a runner that touches no file, in trees without links.

* `MakesAll.each`: **what a page is made of**, in terms of the files before the first one is made,
  and what follows on it.
* `finishing_rewrites`, `finishing_sheet`, `finishing_standing`: the pages and the index, up to the
  end of a build.
* `built_of_enumerated`: **the course of a build that succeeds.** `Built.sheets_there`,
  `Built.standing`, `Built.index_there`: what is there at the end.
* `Built.answered`: **the call for a transcript is answered as if nothing had been written
  yet**, and the kept files are at the end as they were then.
-/

namespace LiterateSite.Site

open Files Files.Tree Text Building

variable {b : Builder} {theme : Highlight.Theme} {ids : List String} {id : String}
  {s s' start last : Session} {t t' u : Tree} {source : List UInt8} {x : Transcript}
  {P : Set Path} {p : MadePage} {pages : List MadePage} {html : List Char} {r : BuildResult}

/-! ## What pages are made of -/

/-- **What each page is made of**: when it is made, the files are those before the first page, but
for what has been made for other ids; and that is all that is changed afterwards. -/
theorem MakesAll.each (hm : MakesAll b theme s pages s')
    (hf : ∀ t p, (b.runner.run t p).files = t) (hn : (pages.map (·.entry.id)).Nodup)
    (hl : s.files.Linkless) : ∀ p ∈ pages, ∃ before mid after, Makes b theme p before mid after ∧
      Rewrites {q | ∃ r ∈ pages, r.entry.id ≠ p.entry.id ∧ q ∈ r.written b} s.files
        before.files ∧
      Rewrites {q | ∃ r ∈ pages, r.entry.id ≠ p.entry.id ∧ q ∈ r.written b} after.files
        s'.files := by
  induction hm with
  | nil => exact fun p hp => absurd hp List.not_mem_nil
  | @cons p rest s mid s₁ s' hpage hrest ih =>
    obtain ⟨hnot, hn⟩ := List.nodup_cons.1 hn
    have hfirst := hpage.rewrites hf hl
    intro q hq
    rcases List.mem_cons.1 hq with rfl | hq
    · refine ⟨s, mid, s₁, hpage, Rewrites.refl _ _, ?_⟩
      refine (hrest.rewrites hf (hfirst.linkless hl)).mono ?_
      rintro r ⟨p', hp', hr⟩
      refine ⟨p', List.mem_cons_of_mem _ hp', fun hid => hnot ?_, hr⟩
      exact List.mem_map.2 ⟨p', hp', hid⟩
    · obtain ⟨before, mid', after, hmakes, hothers, hlater⟩ := ih hn (hfirst.linkless hl) q hq
      have hsub : {r | ∃ p' ∈ rest, p'.entry.id ≠ q.entry.id ∧ r ∈ p'.written b} ⊆
          {r | ∃ p' ∈ p :: rest, p'.entry.id ≠ q.entry.id ∧ r ∈ p'.written b} := by
        rintro r ⟨p', hp', hr⟩
        exact ⟨p', List.mem_cons_of_mem _ hp', hr⟩
      refine ⟨before, mid', after, hmakes, (hfirst.mono ?_).trans (hothers.mono hsub),
        hlater.mono hsub⟩
      intro r hr
      refine ⟨p, List.mem_cons_self, fun hid => hnot ?_, hr⟩
      exact List.mem_map.2 ⟨q, hq, hid.symm⟩

/-- The ids of the pages of a catalog are different. -/
theorem page_ids_nodup (hn : ids.Nodup) (h : pages.map MadePage.entry = entriesOf b.layout ids) :
    (pages.map (·.entry.id)).Nodup := by
  rwa [page_ids h]

/-! ## The end of a build -/

section finishing

variable (hf : ∀ t p, (b.runner.run t p).files = t)
  (he : ∀ p ∈ pages, p.entry ∈ entriesOf b.layout ids) (hl : start.files.Linkless)
  (hm : MakesAll b theme start pages last)
  (hindex : last.files.write (b.outputPath "index.html") (Utf8.encode html) = .ok s'.files)

include hf hl hm hindex

/-- **What is changed by the pages and the index.** -/
theorem finishing_rewrites : Rewrites {q | (∃ p ∈ pages, q ∈ p.written b) ∨
    q = b.outputPath "index.html"} start.files s'.files := by
  have hpages := hm.rewrites hf hl
  refine (hpages.mono fun q hq => .inl hq).trans ?_
  exact (rewrites_write (hpages.linkless hl) hindex).mono fun q hq => .inr hq

variable (ha : Placed b ids start.files.workDir)

include he ha

/-- They are not the style sheets. -/
theorem finishing_sheet {n : String} (hn : n = "site.css" ∨ n = "code.css") {content : List UInt8}
    (hr : start.files.read (b.outputPath n) = .ok content) :
    s'.files.read (b.outputPath n) = .ok content := by
  have hname : Path.PlainName n.toList ∧ "index.html" ≠ n := by
    rcases hn with rfl | rfl <;> decide
  refine Avoids.read_of_ok ?_ (finishing_rewrites hf hl hm hindex) hl
    (Set.mem_singleton _) hr
  rintro q (⟨p, hp, hq⟩ | rfl)
  · exact avoids_made_name ha (ha.plain _ (Layout.id_mem (he p hp))) hname.1
      (page_ne_sheet hn) q (MadePage.written_subset (he p hp) hq)
  · exact avoids_name (by decide) hname.1 hname.2 _ rfl

/-- The pages stand when the index has been written. -/
theorem finishing_standing (hfree : "index" ∉ ids) (hn : (pages.map (·.entry.id)).Nodup) :
    ∀ p ∈ pages, Standing b p s'.files := by
  intro p hp
  have hpages := hm.rewrites hf hl
  have ha' : Placed b ids last.files.workDir := hpages.workDir ▸ ha
  have hid := Layout.id_mem (he p hp)
  refine (hm.standing hf ha he hn hl p hp).rewrites ha' hid (hpages.linkless hl)
    (rewrites_write (hpages.linkless hl) hindex) (avoids_index ha' ?_)
  rintro h
  exact hfree (h ▸ hid)

end finishing

/-! ## The course of a build -/

/-- The style sheets are there after they have been written. -/
theorem Prepared.sheets_there {entries : List Entry} (h : Prepared b s theme entries start)
    (hl : (s.files.createDirAll b.config.output).1.Linkless) :
    ∃ code, b.highlighter.stylesheet theme = .ok code ∧
      start.files.read (b.outputPath "site.css") =
        .ok (Utf8.encode (Style.finish Style.layout b.config.minify).1) ∧
      start.files.read (b.outputPath "code.css") =
        .ok (Utf8.encode (Style.finish code.toList b.config.minify).1) := by
  obtain ⟨code, u, hcode, hsite, hcss⟩ := h.sheets
  have hl' : u.Linkless := (rewrites_write hl hsite).linkless hl
  refine ⟨code, hcode, ?_, read_of_write hl' hcss⟩
  refine (avoids_name (by decide) (by decide) (by decide)).read_of_ok (rewrites_write hl' hcss) hl'
    (Set.mem_singleton _) (read_of_write hl hsite)

/-- **A build that succeeds** has made the pages of its ids. -/
theorem built_of_enumerated (hids : enumeratedIds b.layout s.files = .ok ids)
    (h : b.build s = (.ok r, s')) : ∃ theme pages html start last,
      Built b s r s' theme (entriesOf b.layout ids) pages html start last := by
  obtain ⟨theme, entries, pages, html, start, last, hb⟩ := of_build h
  have hentries := (catalog_of_enumerated hids).1
  obtain rfl : entries = entriesOf b.layout ids :=
    Except.ok.inj (hb.catalog.symm.trans hentries)
  exact ⟨theme, pages, html, start, last, hb⟩

namespace Built

variable (h : Built b s r s' theme (entriesOf b.layout ids) pages html start last)

include h

/-- **It has been prepared** before the pages have been made. -/
theorem prepared : Prepared b s theme (entriesOf b.layout ids) start := by
  have hids := catalog_eq_ok (Prod.ext h.catalog rfl)
  obtain ⟨-, hfiles, hruns⟩ := catalog_of_enumerated hids
  obtain ⟨hloaded, hsheets, code, t, hcode, hsite, hcss⟩ := of_takeTemplates h.sheets
  simp only [show (Site.catalog b.config.toLayout s).2.files = s.files from hfiles] at hsite
  refine ⟨h.theme_found, hids, ?_, ⟨code, t, hcode, hsite, hcss⟩, hsheets.trans hruns, hloaded⟩
  rw [Layout.ids_entriesOf]

/-- The pages are those of the catalog. -/
theorem entry_mem : ∀ p ∈ pages, p.entry ∈ entriesOf b.layout ids :=
  fun _ hp => h.entries_eq ▸ List.mem_map_of_mem hp

theorem ids_eq : pages.map (·.entry.id) = ids := page_ids h.entries_eq

theorem id_mem (hp : p ∈ pages) : p.entry.id ∈ ids := Layout.id_mem (h.entry_mem p hp)

theorem page_of_id (hid : id ∈ ids) : ∃ p ∈ pages, p.entry.id = id := by
  rw [← h.ids_eq] at hid
  exact List.mem_map.1 hid

/-- **What is told of the build.** -/
theorem result_eq : r =
    { pages := ids.length
      executed := pages.countP fun p => p.transcript.status.executed
      cached := ids.length - pages.countP fun p => p.transcript.status.executed
      output := b.config.output } := by
  rw [h.result, Layout.length_entriesOf]

/-- **What has been run**: the sources of the pages that were not cached. -/
theorem runs_eq : s'.runs = s.runs ++
    (pages.filter fun p => p.transcript.status.executed).map fun p => p.entry.source := by
  rw [h.runs, h.pages_made.runs, h.prepared.runs]

/-- **The pages are rendered** with templates of the builder, or of its directory. -/
theorem page_rendered : ∀ p ∈ pages, ∃ source, b.Supplies source ∧
    b.pageOf theme (p.shown b) p.transcript.text source = .ok p.html :=
  h.pages_made.rendered (follows_of_eq h.prepared.loaded)

/-- **The index** is rendered with such templates, too. -/
theorem index_made : b.Supplies (b.sourceAt last) :=
  (h.pages_made.follows (follows_of_eq h.prepared.loaded)).supplies

variable (hl : s.files.Linkless)

include hl

/-- **What there is before the pages are made**: the output directory has been created, and the
style sheets have been written. -/
theorem start_rewrites :
    Rewrites b.sheets (s.files.createDirAll b.config.output).1 start.files := by
  have hl₁ : (s.files.createDirAll b.config.output).1.Linkless :=
    hl.grows (createDirAll_grows fun k _ => hl k)
  obtain ⟨code, u, -, hsite, hcss⟩ := h.prepared.sheets
  have hfirst := rewrites_write hl₁ hsite
  refine (hfirst.mono ?_).trans ((rewrites_write (hfirst.linkless hl₁) hcss).mono ?_)
  · rintro q rfl
    exact .inl rfl
  · rintro q rfl
    exact .inr rfl

theorem start_linkless : start.files.Linkless :=
  (h.start_rewrites hl).linkless (hl.grows (createDirAll_grows fun k _ => hl k))

theorem start_workDir : start.files.workDir = s.files.workDir :=
  (h.start_rewrites hl).workDir.trans (createDirAll_grows fun k _ => hl k).workDir

/-- The output directory has been created, with those that it is in. -/
theorem output_directory {l : Location} (hway : l ∈ b.config.output.way s.files.workDir) :
    (s.files.createDirAll b.config.output).1.get? l = some .directory := by
  obtain ⟨code, -, hsite, -⟩ := h.prepared.sheets_there
    (hl.grows (createDirAll_grows fun k _ => hl k))
  have hplain : Path.PlainName "site.css".toList := by decide
  rw [← h.start_workDir hl] at hway
  exact ((h.start_rewrites hl).shape.directory_iff l).2
    ((way_of_child (h.start_linkless hl) hplain hsite).2.1 l hway)

variable (hf : ∀ t p, (b.runner.run t p).files = t)

include hf

/-- **The index** is there at the end. -/
theorem index_there : s'.files.read (b.outputPath "index.html") = .ok (Utf8.encode html) :=
  read_of_write ((h.pages_made.rewrites hf (h.start_linkless hl)).linkless (h.start_linkless hl))
    h.index_written

variable (ha : Placed b ids s.files.workDir)

include ha

/-- **How the calls are answered**: before one the files of the example are as they were before
the style sheets were written, and after it they stay as they are up to the end. -/
theorem answered : ∀ p ∈ pages, ∃ before : Tree,
    before.Linkless ∧ before.workDir = s.files.workDir ∧
    (∀ l ∈ b.besides s.files.workDir p.entry.id,
      before.get? l = (s.files.createDirAll b.config.output).1.get? l) ∧
    before.read (b.layout.sourceOf p.entry.id) = .ok p.source ∧
    Answered b p.entry.id p.source before p.transcript s'.files := by
  intro p hp
  have he := h.entry_mem p hp
  have hid := Layout.id_mem he
  have hl₁ := h.start_linkless hl
  have ha₁ : Placed b ids start.files.workDir := h.start_workDir hl ▸ ha
  have hn := page_ids_nodup ha.distinct h.entries_eq
  obtain ⟨before, mid, after, hmakes, hothers, hlater⟩ := h.pages_made.each hf hn hl₁ p hp
  have havoids : ∀ {w}, Placed b ids w → Avoids w
      {q | ∃ r ∈ pages, r.entry.id ≠ p.entry.id ∧ q ∈ r.written b} (b.besides w p.entry.id) :=
    fun ha => (avoids_others ha h.entry_mem).mono Builder.besides_subset
  have hl₂ := hothers.linkless hl₁
  have hw₂ : before.files.workDir = s.files.workDir := hothers.workDir.trans (h.start_workDir hl)
  have ha₂ : Placed b ids before.files.workDir := hw₂ ▸ ha
  refine ⟨before.files, hl₂, hw₂, fun l hlocation => ?_, Layout.source_eq he ▸ hmakes.read, ?_⟩
  · -- neither the files of other examples nor the style sheets are there
    have hgrows := createDirAll_grows (p := b.config.output) fun k _ => hl k
    have hpages : before.files.get? l = start.files.get? l := by
      refine hothers.get?_eq fun q hq hgoal => havoids ha₁ q hq ?_
      rw [hgoal, h.start_workDir hl]
      exact hlocation
    refine hpages.trans ((h.start_rewrites hl).get?_eq fun q hq hgoal => ?_)
    rw [hgrows.workDir] at hgoal
    exact avoids_sheets ha q hq (Builder.besides_subset (hgoal ▸ hlocation))
  · -- what follows on the call are the page, the other pages, and the index
    have hcall := touches_ensureFresh hf p.entry p.source before hl₂
    rw [hmakes.answered] at hcall
    have hl₃ := hcall.linkless hl₂
    have ha₃ : Placed b ids mid.files.workDir := hcall.workDir ▸ ha₂
    have hpage := rewrites_write hl₃ hmakes.written
    have hl₄ := hpage.linkless hl₃
    have ha₄ : Placed b ids after.files.workDir := hpage.workDir ▸ ha₃
    have hl₅ := hlater.linkless hl₄
    have ha₅ : Placed b ids last.files.workDir := hlater.workDir ▸ ha₄
    have hanswered := Ensured.answered ha₂ he hl₂ hf hmakes.answered hmakes.read
    have hafter := hanswered.rewrites ha₃ hid hl₃ hpage
      (avoids_output ha₃ (plainName_page (ha.plain _ hid)))
    have hlast := hafter.rewrites ha₄ hid hl₄ hlater (havoids ha₄)
    exact hlast.rewrites ha₅ hid hl₅ (rewrites_write hl₅ h.index_written)
      (avoids_output ha₅ (by decide))

/-- The transcripts have the digests of the sources. -/
theorem digest_eq : ∀ p ∈ pages, p.transcript.digest = sourceDigest p.entry.id p.source := by
  intro p hp
  obtain ⟨before, -, -, -, -, hanswered⟩ := h.answered hl hf ha p hp
  generalize p.transcript = x at hanswered
  cases hanswered <;> rfl

/-- **The style sheets** are those of the theme. -/
theorem sheets_there : ∃ code, b.highlighter.stylesheet theme = .ok code ∧
    s'.files.read (b.outputPath "site.css") =
      .ok (Utf8.encode (Style.finish Style.layout b.config.minify).1) ∧
    s'.files.read (b.outputPath "code.css") =
      .ok (Utf8.encode (Style.finish code.toList b.config.minify).1) := by
  obtain ⟨code, hcode, hsite, hcss⟩ := h.prepared.sheets_there
    (hl.grows (createDirAll_grows fun k _ => hl k))
  have hsheet : ∀ {n content}, n = "site.css" ∨ n = "code.css" →
      start.files.read (b.outputPath n) = .ok content →
        s'.files.read (b.outputPath n) = .ok content := fun hn hr =>
    finishing_sheet hf h.entry_mem (h.start_linkless hl) h.pages_made h.index_written
      (h.start_workDir hl ▸ ha) hn hr
  exact ⟨code, hcode, hsheet (.inl rfl) hsite, hsheet (.inr rfl) hcss⟩

/-- **The pages** stand at the end. -/
theorem standing (hfree : "index" ∉ ids) : ∀ p ∈ pages, Standing b p s'.files :=
  finishing_standing hf h.entry_mem (h.start_linkless hl) h.pages_made h.index_written
    (h.start_workDir hl ▸ ha) hfree (page_ids_nodup ha.distinct h.entries_eq)

end Built

end LiterateSite.Site
