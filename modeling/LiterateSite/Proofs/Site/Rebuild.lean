import Mathlib.Data.Finset.Card
import LiterateSite.Proofs.Site.Finished

/-!
# Builds after an edit

* `Edited`: the sources of some ids get other digests.
* `Finished.edited`: **a finished site after an edit.**
* `Finished.page_kept`, `Finished.page_changed`: what becomes of a page in the next build.
* `Finished.files_stay`: what becomes of the files of an example that has not been edited.
* `rebuild_is_local`: **the next build runs what has been edited, and nothing else is changed.**
* `rebuild_not_local`: configurations under which it is not so.
-/

namespace LiterateSite.Site

open Files Files.Tree Text Building

/-- **An edit of the sources of some ids**: nothing else is changed, and each source has another
digest than before. -/
structure Edited (layout : Layout) (S : Finset String) (t t' : Tree) : Prop where
  rewrites : Rewrites {q | ∃ id ∈ S, q = layout.sourceOf id} t t'
  changed : ∀ id ∈ S, ∃ old new, t.read (layout.sourceOf id) = .ok old ∧
    t'.read (layout.sourceOf id) = .ok new ∧ sourceDigest id new ≠ sourceDigest id old

variable {b : Builder} {theme : Highlight.Theme} {ids : List String} {id n : String} {e : Entry}
  {w : Location} {S : Finset String} {s mid s' : Session} {t t' : Tree} {p q : MadePage}
  {pages remade : List MadePage}

/-! ## Edits -/

section edits

variable (hset : Setting b ids w) (hS : ∀ id ∈ S, id ∈ ids)

include hset hS

theorem goal_edited {r : Path} (h : ∃ id ∈ S, r = b.layout.sourceOf id) :
    ∃ id ∈ S, r.goal w = b.layout.beside w id b.config.extension := by
  obtain ⟨id, hid, rfl⟩ := h
  exact ⟨id, hid, Layout.goal_sourceOf (hset.plain id (hS id hid)) hset.extension⟩

/-- Sources are no files of the output. -/
theorem edit_avoids_output (hn : Path.PlainName n.toList) :
    Avoids w {r | ∃ id ∈ S, r = b.layout.sourceOf id} {(b.outputPath n).goal w} := by
  intro r hr he
  obtain ⟨id, -, hgoal⟩ := goal_edited hset hS hr
  rw [Set.mem_singleton_iff, hgoal, goal_outputPath hn] at he
  exact hset.output_not_inside _ (he ▸ Layout.inside_beside)

/-- The sources of other ids are elsewhere. -/
theorem edit_avoids_besides (hid : id ∉ S) :
    Avoids w {r | ∃ id ∈ S, r = b.layout.sourceOf id} (b.besides w id) := by
  rintro r hr ⟨ext, he⟩
  obtain ⟨id', hid', hgoal⟩ := goal_edited hset hS hr
  obtain ⟨rfl, -⟩ := Layout.beside_inj.1 (hgoal.symm.trans he)
  exact hid hid'

theorem edit_avoids_places (hp : Path.PlainName id.toList) (hid : id ∉ S) :
    Avoids w {r | ∃ id ∈ S, r = b.layout.sourceOf id} (b.placesOf w id) := by
  rintro r hr (he | hl)
  · refine edit_avoids_output hset hS (plainName_page hp) r hr (he.trans ?_)
    exact (goal_outputPath (plainName_page hp)).symm
  · exact edit_avoids_besides hset hS hid r hr hl

/-- Sources are no kept files. -/
theorem edit_avoids_kept (hid : id ∈ ids) (k : Kept) :
    Avoids w {r | ∃ id ∈ S, r = b.layout.sourceOf id} {(b.layout.keptOf id k).goal w} := by
  intro r hr he
  obtain ⟨id', -, hgoal⟩ := goal_edited hset hS hr
  rw [Set.mem_singleton_iff, hgoal, Layout.goal_keptOf (hset.plain id hid)] at he
  exact hset.not_kept k (Layout.beside_inj.1 he).2

end edits

/-- **A finished site after an edit.** -/
theorem Finished.edited (h : Finished b ids ∅ theme pages t) (hS : ∀ id ∈ S, id ∈ ids)
    (hedit : Edited b.layout S t t') : Finished b ids S theme pages t' := by
  have hr := hedit.rewrites
  have hset := h.setting
  have hout : ∀ {n : String} {content : List UInt8}, Path.PlainName n.toList →
      t.read (b.outputPath n) = .ok content → t'.read (b.outputPath n) = .ok content :=
    fun hn hread => (edit_avoids_output hset hS hn).read_of_ok hr h.linkless
      (Set.mem_singleton _) hread
  have htemplates : b.templates.source t' = b.templates.source t := by
    refine templates_stay h.linkless h.templates hr (fun d hd r hmem => ?_) rfl
    obtain ⟨id, hid, hgoal⟩ := goal_edited hset hS hmem
    rw [hgoal]
    exact hset.examples_apart d hd id (hS id hid)
  have hmem : ∀ p ∈ pages, p.entry ∈ entriesOf b.layout ids :=
    fun p hp => h.entries_eq ▸ List.mem_map_of_mem hp
  obtain ⟨code, hcode, hsite, hcss⟩ := h.sheets
  obtain ⟨html, hhtml, hindex⟩ := h.index
  refine ⟨hr.linkless h.linkless, hr.workDir ▸ hset, ?_, fun d hd => hr.isDir (h.templates d hd),
    h.theme_found, h.entries_eq, ⟨code, hcode, hout (by decide) hsite, hout (by decide) hcss⟩,
    h.digests, htemplates ▸ h.rendered, ⟨html, htemplates ▸ hhtml, hout (by decide) hindex⟩,
    fun p hp => ?_, fun p hp hD => ?_, fun p hp hD => ?_⟩
  · refine enumerated_rewrites h.linkless h.enumerated hr (fun r hmem n he => ?_)
      fun m hm r hmem he => ?_
    · obtain ⟨id, -, hgoal⟩ := goal_edited hset hS hmem
      exact Layout.beside_ne_child (hgoal.symm.trans he)
    · obtain ⟨id, hid, hgoal⟩ := goal_edited hset hS hmem
      exact hset.no_source m hm id (hS id hid) (he.symm.trans hgoal)
  · have hplain := hset.plain _ (Layout.id_mem (hmem p hp))
    exact hout (plainName_page hplain) (h.pages_there p hp)
  · exact (h.current p hp (Set.notMem_empty _)).rewrites hset.toArranged.placed
      (Layout.id_mem (hmem p hp)) h.linkless hr (edit_avoids_besides hset hS hD)
  · -- the digest that is kept is the one of the source before the edit
    obtain ⟨old, new, hold, hnew, hne⟩ := hedit.changed _ hD
    have hcurrent := h.current p hp (Set.notMem_empty _)
    obtain ⟨known, hknown, hdigest⟩ := hcurrent.digest
    obtain rfl : p.source = old := Except.ok.inj (hcurrent.read.symm.trans hold)
    refine ⟨new, known, Layout.source_eq (hmem p hp) ▸ hnew, ?_, fun hsame => hne ?_⟩
    · rw [Layout.hashPath_eq (hmem p hp)]
      exact (edit_avoids_kept hset hS (Layout.id_mem (hmem p hp)) .digest).read_of_ok hr h.linkless
        (Set.mem_singleton _) hknown
    · exact String.toList_inj.1 (hsame.symm.trans hdigest)

/-! ## The next build -/

section rebuilding

variable {last : Session} (h : Finished b ids S theme pages s.files)
  (hf : ∀ t p, (b.runner.run t p).files = t) (hs : s.Rereads b)
  (hm : MakesAll b theme s remade last) (he : remade.map MadePage.entry = entriesOf b.layout ids)

include h he

/-- The pages that are made again are those that have been made before, one by one. -/
theorem Finished.page_of (hq : q ∈ remade) : ∃ p ∈ pages, q.entry = p.entry := by
  have hin : q.entry ∈ pages.map MadePage.entry :=
    h.entries_eq ▸ he ▸ List.mem_map_of_mem hq
  obtain ⟨p, hp, hsame⟩ := List.mem_map.1 hin
  exact ⟨p, hp, hsame.symm⟩

include hf hm

/-- When a page is made again, the files of its example are those before the build. -/
theorem Finished.before_page (hq : q ∈ remade) : ∃ before mid P,
    before.files.read q.entry.source = .ok q.source ∧
    ensureFresh b.runner q.entry q.source before = (.ok q.transcript, mid) ∧
    Rewrites P s.files before.files ∧
    Avoids s.files.workDir P (b.besides s.files.workDir q.entry.id) := by
  have hset := h.setting
  have hmem : ∀ q ∈ remade, q.entry ∈ entriesOf b.layout ids :=
    fun q hq => he ▸ List.mem_map_of_mem hq
  obtain ⟨before, mid, after, hmakes, hothers, -⟩ :=
    hm.each hf (page_ids_nodup hset.distinct he) h.linkless q hq
  exact ⟨before, mid, _, hmakes.read, hmakes.answered, hothers,
    (avoids_others hset.toArranged.placed hmem).mono Builder.besides_subset⟩

include hs in
/-- **A page whose source has not been edited** is made again as it was, with the transcript that
has been kept. -/
theorem Finished.page_kept (hp : p ∈ pages) (hq : q ∈ remade) (hsame : q.entry = p.entry)
    (hS : p.entry.id ∉ S) : q.html = p.html ∧ q.transcript.status = .hit := by
  have hmem : ∀ q ∈ remade, q.entry ∈ entriesOf b.layout ids :=
    fun q hq => he ▸ List.mem_map_of_mem hq
  have hent : p.entry ∈ entriesOf b.layout ids := h.entries_eq ▸ List.mem_map_of_mem hp
  obtain ⟨before, mid, P, hread, hanswered, hothers, havoids⟩ := h.before_page hf hm he hq
  rw [hsame] at hread hanswered havoids
  have hcurrent := (h.current p hp hS).rewrites h.setting.toArranged.placed (Layout.id_mem hent)
    h.linkless hothers havoids
  have hsource : q.source = p.source := by
    rw [Layout.source_eq hent] at hread
    exact Except.ok.inj (hread.symm.trans hcurrent.read)
  rw [hsource, ensureFresh_of_hit _ (hcurrent.lookUp hent), ← h.digests p hp] at hanswered
  have htranscript : q.transcript = ⟨p.transcript.text, p.transcript.digest, .hit⟩ :=
    (Except.ok.inj (Prod.mk.inj hanswered).1).symm
  -- what the page is rendered from is the same
  have hrendered := (hm.templates_stay h.setting hf h.linkless h.templates hmem).1 q hq
  rw [hs] at hrendered
  have hshown : q.shown b = p.shown b := by
    unfold MadePage.shown
    rw [hsame, hsource, htranscript]
  rw [hshown, htranscript] at hrendered
  exact ⟨Except.ok.inj (hrendered.symm.trans (h.rendered p hp)), by rw [htranscript]⟩

/-- **An example whose source has been edited** is run. -/
theorem Finished.page_changed (hp : p ∈ pages) (hq : q ∈ remade) (hsame : q.entry = p.entry)
    (hS : p.entry.id ∈ S) : q.transcript.status ≠ .hit := by
  have hent : p.entry ∈ entriesOf b.layout ids := h.entries_eq ▸ List.mem_map_of_mem hp
  have hplain := h.setting.plain _ (Layout.id_mem hent)
  obtain ⟨before, mid, P, hread, hanswered, hothers, havoids⟩ := h.before_page hf hm he hq
  rw [hsame] at hread hanswered havoids
  obtain ⟨source, known, hnew, hknown, hne⟩ := h.changed p hp hS
  have hsource : before.files.read p.entry.source = .ok source := by
    refine havoids.read_of_ok hothers h.linkless ⟨b.config.extension, ?_⟩ hnew
    rw [Layout.source_eq hent]
    exact Layout.goal_sourceOf hplain h.setting.extension
  have hkept : before.files.read p.entry.hashPath = .ok known := by
    refine havoids.read_of_ok hothers h.linkless ⟨Kept.digest.suffix, ?_⟩ hknown
    rw [Layout.hashPath_eq hent]
    exact Layout.goal_keptOf hplain .digest
  obtain rfl : q.source = source := Except.ok.inj (hread.symm.trans hsource)
  -- a hit would need the digest of the source as it is now
  intro hhit
  obtain ⟨known', _, hknown', hdigest, -, -⟩ := lookUp_hit ((ensured hanswered).hit_text hhit)
  obtain rfl := Except.ok.inj ((read_eq_ok.2 hknown').symm.trans hkept)
  exact hne hdigest

include hs

/-- **Exactly what has been edited is run.** -/
theorem Finished.executed_iff (hq : q ∈ remade) :
    q.transcript.status.executed = true ↔ q.entry.id ∈ S := by
  obtain ⟨p, hp, hsame⟩ := h.page_of he hq
  rw [Site.executed_iff, hsame]
  refine ⟨fun hne => ?_, h.page_changed hf hm he hp hq hsame⟩
  by_contra hnot
  exact hne (h.page_kept hf hs hm he hp hq hsame hnot).2

theorem Finished.executed_sources :
    ((remade.filter fun q => q.transcript.status.executed).map fun q => q.entry.source) =
      (ids.filter (· ∈ S)).map b.layout.sourceOf := by
  have hids : ids = remade.map (·.entry.id) := by
    exact (page_ids he).symm
  have hfilter : (remade.filter fun q => q.transcript.status.executed) =
      remade.filter fun q => q.entry.id ∈ S := by
    refine List.filter_congr fun q hq => ?_
    rw [Bool.eq_iff_iff, h.executed_iff hf hs hm he hq, decide_eq_true_iff]
  have hsources : ids.filter (· ∈ S) =
      (remade.filter fun q => q.entry.id ∈ S).map (·.entry.id) := by
    conv_lhs => rw [hids, List.filter_map]
    rfl
  rw [hfilter, hsources, List.map_map]
  refine List.map_congr_left fun q hq => ?_
  exact Layout.source_eq (he ▸ List.mem_map_of_mem (List.mem_of_mem_filter hq))

/-- **The files of an example that has not been edited** stay as they are. -/
theorem Finished.files_stay {html : List Char}
    (hindex : last.files.write (b.outputPath "index.html") (Utf8.encode html) = .ok s'.files)
    (hid : id ∈ ids) (hS : id ∉ S) {f : Path} (hmade : f ∈ b.made id) :
    ∃ content, s.files.read f = .ok content ∧ s'.files.read f = .ok content := by
  have hset := h.setting
  have hl := h.linkless
  have hmem : ∀ q ∈ remade, q.entry ∈ entriesOf b.layout ids :=
    fun q hq => he ▸ List.mem_map_of_mem hq
  obtain ⟨p, hp, rfl⟩ : ∃ p ∈ pages, p.entry.id = id := by
    rw [← page_ids h.entries_eq] at hid
    exact List.mem_map.1 hid
  obtain ⟨q, hq, hsame⟩ : ∃ q ∈ remade, q.entry = p.entry := by
    have hin : p.entry ∈ remade.map MadePage.entry := he ▸ h.entries_eq ▸ List.mem_map_of_mem hp
    exact List.mem_map.1 hin
  obtain ⟨hhtml, hhit⟩ := h.page_kept hf hs hm he hp hq hsame hS
  have hstanding := finishing_standing hf hmem hl hm hindex hset.toArranged.placed
    hset.index_free (page_ids_nodup hset.distinct he) q hq
  have hother : ∀ x ∈ remade, x.entry.id = p.entry.id → x = q := by
    intro x hx hxid
    have hn := page_ids_nodup hset.distinct he
    exact List.inj_on_of_nodup_map hn hx hq (hxid.trans (hsame ▸ rfl))
  rcases hmade with rfl | ⟨k, rfl⟩
  · have hpage := hstanding.page
    unfold MadePage.name at hpage
    rw [hsame, hhtml] at hpage
    exact ⟨_, h.pages_there p hp, hpage⟩
  · -- of its own files only the page has been written, and nothing of those of the others
    obtain ⟨content, hread⟩ := h.made_there hid hS (.inr ⟨k, rfl⟩)
    refine ⟨content, hread, Avoids.read_of_ok (L := b.besides s.files.workDir p.entry.id) ?_
      (finishing_rewrites hf hl hm hindex) hl ⟨_, Layout.goal_keptOf (hset.plain _ hid) k⟩ hread⟩
    rintro f (⟨x, hx, hf'⟩ | rfl)
    · by_cases hxid : x.entry.id = p.entry.id
      · obtain rfl := hother x hx hxid
        rcases hf' with rfl | ⟨hne, -⟩
        · exact avoids_output hset.toArranged.placed
            (plainName_page (hset.plain _ (Layout.id_mem (hmem x hx)))) _ rfl
        · exact absurd hhit hne
      · exact (avoids_made hset.toArranged.placed (hset.plain _ (Layout.id_mem (hmem x hx)))
          hxid).mono Builder.besides_subset f (MadePage.written_subset (hmem x hx) hf')
    · exact avoids_output hset.toArranged.placed (by decide) _ rfl

end rebuilding

/-- Of the ids as many are in a set of some of them as the set has. -/
theorem length_filter_mem (hn : ids.Nodup) (hS : ∀ id ∈ S, id ∈ ids) :
    (ids.filter (· ∈ S)).length = S.card := by
  rw [← List.toFinset_card_of_nodup (hn.filter _)]
  congr 1
  ext id
  rw [List.mem_toFinset, List.mem_filter, decide_eq_true_iff]
  exact ⟨fun hid => hid.2, fun hid => ⟨hS id hid, hid⟩⟩

/-- **A build of an edited site** that succeeds. -/
theorem Finished.rebuilt {r : BuildResult} (h : Finished b ids S theme pages s.files)
    (hf : ∀ t p, (b.runner.run t p).files = t) (hS : ∀ id ∈ S, id ∈ ids)
    (hb : b.build s = (.ok r, s')) :
    s'.runs = s.runs ++ (ids.filter (· ∈ S)).map b.layout.sourceOf ∧ r.executed = S.card ∧
      r.cached = ids.length - S.card ∧ ∀ id ∈ ids, id ∉ S → ∀ f ∈ b.made id,
        ∃ content, s.files.read f = .ok content ∧ s'.files.read f = .ok content := by
  rw [build_eq] at hb
  obtain ⟨⟨theme', entries⟩, start, hprepare, hb⟩ := bind_eq_ok hb
  obtain ⟨built, last, hbuilt, hfinish⟩ := bind_eq_ok hb
  -- preparing changes nothing
  obtain ⟨start', hagain, ⟨hfiles, hruns⟩, hrereads⟩ := h.prepare_again
  rw [hagain] at hprepare
  cases hprepare
  obtain ⟨remade, he, hm, rfl⟩ := of_pages _ hbuilt
  obtain ⟨rfl, html, -, hindex⟩ := of_finish hfinish
  have hlast : s'.runs = last.runs := by
    have hrun := finish_runs (b := b) (entriesOf b.layout ids)
      (remade.map fun p => (p.shown b, p.transcript.status)) last
    rwa [hfinish] at hrun
  rw [← hfiles] at h
  have hsources := h.executed_sources hf hrereads hm he
  have hexecuted : (resultOf b (entriesOf b.layout ids)
      (remade.map fun p => (p.shown b, p.transcript.status))).executed = S.card := by
    have hlen := congrArg List.length hsources
    rw [List.length_map, List.length_map, length_filter_mem h.setting.distinct hS] at hlen
    rw [← hlen, ← List.countP_eq_length_filter]
    exact List.countP_map
  refine ⟨?_, hexecuted, ?_, fun id hid hnot f hmade => ?_⟩
  · rw [hlast, hm.runs, hsources, hruns]
  · rw [← hexecuted, ← Layout.length_entriesOf ids]
    rfl
  · rw [← hfiles]
    exact h.files_stay hf hrereads hm he hindex hid hnot hmade

/-- **Cache invalidation is local to what has been edited.** There are no links, the runners touch
no file, the ids and the paths are those of `Setting`, so that the way to the output directory does
not go into the examples either, and the templates are in a directory. After a build that succeeds
the sources of some examples get other digests. If the next build succeeds, it has run exactly these
examples, once each, in their order; it tells so; and the page and the kept files of each other
example are as they were. If nothing has been edited, the next build does succeed, and all files are
as they were. -/
theorem rebuild_is_local {r : BuildResult} {runner : Runner} (hset : Setting b ids s.files.workDir)
    (hl : s.files.Linkless) (hf : ∀ t p, (b.runner.run t p).files = t)
    (hf' : ∀ t p, (runner.run t p).files = t)
    (hids : enumeratedIds b.layout s.files = .ok ids)
    (hd : ∀ d, b.templates.directory = some d → s.files.isDir d = true)
    (hS : ∀ id ∈ S, id ∈ ids) (h : b.build s = (.ok r, s'))
    (hedit : Edited b.layout S s'.files t) :
    let again := ({ b with runner } : Builder).build { files := t }
    (∀ r', again.1 = .ok r' →
      again.2.runs = (ids.filter (· ∈ S)).map b.layout.sourceOf ∧ r'.executed = S.card ∧
        r'.cached = ids.length - S.card ∧ ∀ id ∈ ids, id ∉ S → ∀ f ∈ b.made id,
          ∃ content, s'.files.read f = .ok content ∧ again.2.files.read f = .ok content) ∧
      (S = ∅ → (∃ r', again.1 = .ok r') ∧ again.2.files = t) := by
  intro again
  obtain ⟨theme, pages, hfinished⟩ := finished_of_build hset hf hl hids hd h
  have hedited := hfinished.edited hS hedit
  have hnext : Finished { b with runner } ids S theme pages ({ files := t } : Session).files :=
    hedited.withRunner runner
  refine ⟨fun r' hr' => ?_, ?_⟩
  · obtain ⟨hruns, hexecuted, hcached, hstay⟩ := hnext.rebuilt hf' hS (Prod.ext hr' rfl)
    refine ⟨hruns, hexecuted, hcached, fun id hid hnot f hmade => ?_⟩
    obtain ⟨content, hbefore, hafter⟩ := hstay id hid hnot f hmade
    -- the edit has left the file as it is, too
    obtain ⟨content', hread⟩ := hfinished.made_there hid (Set.notMem_empty _) hmade
    have hset' := hfinished.setting
    have hplain := hset'.plain id hid
    have hkept := (edit_avoids_places hset' hS hplain hnot).read_of_ok hedit.rewrites
      hfinished.linkless (goal_made hplain hmade) hread
    obtain rfl := Except.ok.inj (hkept.symm.trans hbefore)
    exact ⟨content', hread, hafter⟩
  · rintro rfl
    rw [Finset.coe_empty] at hnext
    obtain ⟨r', s₂, hagain, hfiles, -⟩ := hnext.again
    exact ⟨⟨r', congrArg Prod.fst hagain⟩, (congrArg (fun x => x.2.files) hagain).trans hfiles⟩

/-- The files after a build, with another source of an example. -/
def builtAndEdited (b : Builder) (t : Tree) (id : String) (source : List UInt8) : Tree :=
  let built := (b.build { files := t }).2.files
  (built.write (b.layout.sourceOf id) source).toOption.getD built

theorem edited_builtAndEdited (old : List UInt8) {new : List UInt8}
    (h : (b.build { files := t }).2.files.entries.all (fun x => !x.2.isLink) = true ∧
      ((b.build { files := t }).2.files.read (b.layout.sourceOf id)).toOption = some old ∧
      ((b.build { files := t }).2.files.write (b.layout.sourceOf id) new).toOption.isSome = true)
    (hne : sourceDigest id new ≠ sourceDigest id old) :
    Edited b.layout {id} (b.build { files := t }).2.files (builtAndEdited b t id new) := by
  obtain ⟨hentries, hold, hnew⟩ := h
  have hl : (b.build { files := t }).2.files.Linkless := noLink_of_entries hentries
  have hwrite := eq_ok_of_isSome (a := (b.build { files := t }).2.files) hnew
  refine ⟨(rewrites_write hl hwrite).mono ?_, fun id' hid => ?_⟩
  · rintro q rfl
    exact ⟨id, Finset.mem_singleton_self _, rfl⟩
  · obtain rfl := Finset.mem_singleton.1 hid
    exact ⟨old, new, toOption_eq_some.1 hold, read_of_write hl hwrite, hne⟩

/-- The files of a site of two examples after a build. -/
def twoPagesBuilt : Tree := (oneExample.build { files := twoPages }).2.files

/-- The same with another source of the second example. -/
def twoPagesEdited : Tree := builtAndEdited oneExample twoPages "b" [50]

/-- Of two examples the second one is edited: only this one is run, and the page of the first one is
as it was. -/
theorem rebuild_is_local_two :
    ∃ r, (oneExample.build { files := twoPagesEdited }).1 = .ok r ∧ r.executed = 1 ∧
      (oneExample.build { files := twoPagesEdited }).2.runs = [oneExample.layout.sourceOf "b"] ∧
      ∃ content, twoPagesBuilt.read (oneExample.outputPath "a.html") = .ok content ∧
        (oneExample.build { files := twoPagesEdited }).2.files.read
          (oneExample.outputPath "a.html") = .ok content := by
  have hset : Setting oneExample ["a", "b"] twoPages.workDir := by
    refine ⟨arranged_twoPages, by decide, ?_, ?_, (fun m hm => by cases hm),
      fun m hm => by cases hm⟩
    · rintro d hd
      cases hd
      decide
    · rintro d hd
      cases hd
      decide
  have hids : enumeratedIds oneExample.layout twoPages = .ok ["a", "b"] :=
    toOption_eq_some.1 (by decide +kernel)
  have hdir : ∀ d, oneExample.templates.directory = some d → twoPages.isDir d = true := by
    rintro d hd
    cases hd
    decide +kernel
  have hbuilt : (oneExample.build { files := twoPages }).1.toOption.isSome = true := by
    decide +kernel
  have hne : sourceDigest "b" [50] ≠ sourceDigest "b" [49] := by decide +kernel
  have hedit : Edited oneExample.layout {"b"} twoPagesBuilt twoPagesEdited :=
    edited_builtAndEdited [49] (by decide +kernel) hne
  have hagain : (oneExample.build { files := twoPagesEdited }).1.toOption.isSome = true := by
    decide +kernel
  have hmem : ∀ id ∈ ({"b"} : Finset String), id ∈ ["a", "b"] := by decide
  have hkept : "a" ∈ ["a", "b"] ∧ "a" ∉ ({"b"} : Finset String) := by decide
  have hnolinks : twoPages.Linkless := noLink_of_entries (by decide)
  have hfiles : ∀ t p, (oneExample.runner.run t p).files = t := fun _ _ => rfl
  have hrunner : oneExample = { oneExample with runner := oneExample.runner } := rfl
  have hfirst : (oneExample.build { files := twoPages }).2.files = twoPagesBuilt := rfl
  obtain ⟨r, s', hr⟩ := Building.ok_of_isSome hbuilt
  obtain ⟨r', s₂, hr'⟩ := Building.ok_of_isSome hagain
  -- from here on it does not matter what the site is
  generalize oneExample = b at *
  generalize twoPagesBuilt = built at *
  generalize twoPagesEdited = edited at *
  generalize twoPages = t at *
  obtain rfl : s'.files = built := (congrArg (fun x => x.2.files) hr).symm.trans hfirst
  have hlocal := (rebuild_is_local (s := { files := t }) hset hnolinks hfiles hfiles hids hdir
    hmem hr hedit).1
  rw [← hrunner] at hlocal
  obtain ⟨hruns, hexecuted, -, hstay⟩ := hlocal r' (congrArg Prod.fst hr')
  exact ⟨r', congrArg Prod.fst hr', hexecuted, hruns,
    hstay "a" hkept.1 hkept.2 _ (Set.mem_insert _ _)⟩

/-! ## Builds that read more than a source -/

/-- The output directory is apart from the examples, the manifest and the templates. -/
def OutputApart (b : Builder) (ids : List String) (w : Location) : Prop :=
  Arranged b ids w ∧ "index" ∉ ids ∧ ¬ b.config.output.goal w <:+ b.layout.root w ∧
    ∀ d, b.templates.directory = some d →
      ¬ d.goal w <:+ b.config.output.goal w ∧ ¬ b.config.output.goal w <:+ d.goal w

theorem outputApart_of_short (hn : ids.Nodup) (hp : ∀ id ∈ ids, Path.PlainName id.toList)
    (hi : "index" ∉ ids) (hx : '/' ∉ b.config.extension.toList)
    (hk : ∀ k : Kept, b.config.extension ≠ k.suffix)
    (hshort : ∀ l ∈ b.config.output.way w, l.length ≤ (b.layout.root w).length)
    (hr : ¬ b.config.output.goal w <:+ b.layout.root w)
    (hm : ∀ m ∈ b.layout.manifest, ¬ b.config.output.goal w <:+ m.goal w)
    (hd : ∀ d ∈ b.templates.directory, ¬ d.goal w <:+ b.config.output.goal w ∧
      ¬ b.config.output.goal w <:+ d.goal w) : OutputApart b ids w := by
  refine ⟨arranged_of_short hn hp hx hk hshort (fun he => hr ?_) hm, hi, hr, hd⟩
  exact he ▸ List.suffix_refl _

/-- The small site, with a manifest. -/
def listedBy (manifest : String) : Builder :=
  { oneExample with
    config := { oneExample.config with manifest := some (Path.ofString manifest) } }

/-- **A site to be built again**: there are no links, the output directory is apart, a build
succeeds, and then the sources of some ids are edited. -/
structure ToRebuild (b : Builder) (ids : List String) (S : Finset String) (t t' : Tree) : Prop where
  linkless : t.Linkless
  apart : OutputApart b ids t.workDir
  enumerated : enumeratedIds b.layout t = .ok ids
  built : (b.build { files := t }).1.isOk = true
  edited : Edited b.layout S (b.build { files := t }).2.files t'

/-- The examples are shown with the source of the second one. -/
def showingSource : Tree :=
  mirrorTree.insert (locationOf ["examples", "example.html"])
    (.file (Utf8.ofString "\x7b% include \"foo/foo.js\" %\x7d"))

theorem toRebuild_showingSource : ToRebuild mirror ["bar", "foo"] {"foo"} showingSource
    (builtAndEdited mirror showingSource "foo" [49]) where
  linkless := noLink_of_entries (by decide)
  apart := outputApart_of_short (by decide) (by decide) (by decide) (by decide)
    (fun k => by cases k <;> decide) (by decide) (by decide) (by decide) (by decide)
  enumerated := toOption_eq_some.1 (by decide +kernel)
  built := by decide +kernel
  edited := edited_builtAndEdited [] (by decide +kernel) (by decide +kernel)

/-- The digest of the example is there, and it is a manifest. -/
def listedByDigest : Tree :=
  pageAndIndex "a" [(locationOf ["examples", "a", "a.hash"], .file (Utf8.ofString "a\n"))]

theorem toRebuild_listedByDigest : ToRebuild (listedBy "examples/a/a.hash") ["a"] ∅ listedByDigest
    ((listedBy "examples/a/a.hash").build { files := listedByDigest }).2.files where
  linkless := noLink_of_entries (by decide)
  apart := outputApart_of_short (by decide) (by decide) (by decide) (by decide)
    (fun k => by cases k <;> decide) (by decide) (by decide) (by decide) (by decide)
  enumerated := toOption_eq_some.1 (by decide +kernel)
  built := by decide +kernel
  edited := ⟨Rewrites.refl _ _, fun id hid => absurd hid (Finset.notMem_empty id)⟩

/-- The source of the first example is a manifest, and the pages tell which example is the first. -/
def listedBySource : Tree :=
  (twoPages.insert (locationOf ["examples", "a", "a.js"]) (.file (Utf8.ofString "a\nb\n"))).insert
    (locationOf ["templates", "example.html"])
    (.file (Utf8.ofString "\x7b% if previous_id %\x7dlater\x7b% endif %\x7d"))

theorem toRebuild_listedBySource : ToRebuild (listedBy "examples/a/a.js") ["a", "b"] {"a"}
    listedBySource (builtAndEdited (listedBy "examples/a/a.js") listedBySource "a"
      (Utf8.ofString "b\na\n")) where
  linkless := noLink_of_entries (by decide)
  apart := outputApart_of_short (by decide) (by decide) (by decide) (by decide)
    (fun k => by cases k <;> decide) (by decide) (by decide) (by decide) (by decide)
  enumerated := toOption_eq_some.1 (by decide +kernel)
  built := by decide +kernel
  edited := edited_builtAndEdited (Utf8.ofString "a\nb\n") (by decide +kernel)
    (by decide +kernel)

/-- **Builds that read more than a source.** A template that includes the source of an example shows
it on the page of another one. A manifest that is the digest of an example is lost in the first
build, and the next one fails with nothing edited. A manifest that is the source of an example
changes the order with it, and the page of another example that tells whether one comes before it.
-/
theorem rebuild_not_local :
    (let t := builtAndEdited mirror showingSource "foo" [49]
      let page := mirror.outputPath "bar.html"
      ToRebuild mirror ["bar", "foo"] {"foo"} showingSource t ∧
        (mirror.build { files := t }).1.isOk = true ∧ t.content? page = some [] ∧
        (mirror.build { files := t }).2.files.content? page = some [49]) ∧
    (let b := listedBy "examples/a/a.hash"
      let t := (b.build { files := listedByDigest }).2.files
      ToRebuild b ["a"] ∅ listedByDigest t ∧ (b.build { files := t }).1.isOk = false) ∧
    (let b := listedBy "examples/a/a.js"
      let t := builtAndEdited b listedBySource "a" (Utf8.ofString "b\na\n")
      let page := b.outputPath "b.html"
      ToRebuild b ["a", "b"] {"a"} listedBySource t ∧ (b.build { files := t }).1.isOk = true ∧
        t.content? page = some (Utf8.ofString "later") ∧
        (b.build { files := t }).2.files.content? page = some []) := by
  refine ⟨⟨toRebuild_showingSource, ?_⟩, ⟨toRebuild_listedByDigest, ?_⟩,
    toRebuild_listedBySource, ?_⟩
  · decide +kernel
  · decide +kernel
  · decide +kernel

end LiterateSite.Site
