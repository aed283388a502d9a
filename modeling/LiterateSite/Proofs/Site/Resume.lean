import LiterateSite.Proofs.Site.Current

/-!
# Builds that fail at an example

* `Fails`, `fails_of_error`: the ways in which making a page fails.
* `pages_of_error`: **pages are made up to the example that fails.**
* `Keeps`: steps that keep something of a session. `keeps_buildExample`, `keeps_build`: an example
  that is up to date is not run.
* `Stopped`: what a build leaves that fails at an example.
* `failed_build_resumes`: **a build that fails at an example has made the pages before it, has left
  those after it alone, and can be resumed.**
-/

namespace LiterateSite.Site

open Files Files.Tree Text Building

variable {b : Builder} {theme : Highlight.Theme} {ids : List String} {id : String} {e : Entry}
  {layout : Layout} {s mid s' : Session} {t t' : Tree} {source : List UInt8} {text : List Char}
  {x : Transcript} {p : MadePage} {pages : List MadePage} {err : BuildError}

/-! ## Failures -/

/-- **The ways in which making a page fails**: the source cannot be read; there is no transcript; or
there is one, and the page cannot be rendered or written. Templates may have been loaded then. -/
inductive Fails (b : Builder) (e : Entry) (s : Session) : Session → Prop
  | unread {cause : IoError} (hr : s.files.read e.source = .error cause) : Fails b e s s
  | unanswered {source : List UInt8} {err : BuildError} {s' : Session}
    (hr : s.files.read e.source = .ok source)
    (hc : ensureFresh b.runner e source s = (.error err, s')) : Fails b e s s'
  | unpublished {source : List UInt8} {x : Transcript} {mid s' : Session}
    (hr : s.files.read e.source = .ok source)
    (hc : ensureFresh b.runner e source s = (.ok x, mid))
    (hsame : s'.files = mid.files ∧ s'.runs = mid.runs) : Fails b e s s'

theorem fails_of_error (h : b.buildExample theme e s = (.error err, s')) : Fails b e s s' := by
  rw [buildExample_eq] at h
  cases hr : s.files.read e.source with
  | error cause =>
    rw [bind_error (read_error hr)] at h
    cases h
    exact .unread hr
  | ok source =>
    rw [bind_ok (read_ok hr)] at h
    rcases bind_eq_error h with hc | ⟨x, mid, hc, hp⟩
    · exact .unanswered hr hc
    · -- publishing that fails leaves the files as they were
      obtain ⟨hruns, -, hfiles⟩ := publish_frame b theme e source x mid
      rw [hp] at hruns hfiles
      exact .unpublished hr hc ⟨hfiles err rfl, hruns⟩

/-- **Making a page runs its example at most once**, and nothing else. -/
theorem Fails.runs_cases (h : Fails b e s s') :
    s'.runs = s.runs ∨ s'.runs = s.runs ++ [e.source] := by
  cases h with
  | unread => exact .inl rfl
  | unanswered hr hc => exact (ensured hc).runs_cases
  | unpublished hr hc hsame => rw [hsame.2]; exact (ensured hc).runs_cases

/-- **A failure** leaves the page alone. -/
theorem Fails.rewrites (h : Fails b e s s') (hf : ∀ t p, (b.runner.run t p).files = t)
    (hl : s.files.Linkless) : Rewrites (Set.range e.kept) s.files s'.files := by
  cases h with
  | unread => exact Rewrites.refl _ _
  | @unanswered source err s' hr hc =>
    have htouch := touches_ensureFresh hf e source s hl
    rwa [hc] at htouch
  | @unpublished source x mid s' hr hc hsame =>
    have htouch := touches_ensureFresh hf e source s hl
    rw [hc] at htouch
    exact hsame.1 ▸ htouch

/-- **A failure after a call that has succeeded** leaves the files as they were then. -/
theorem Fails.answered (h : Fails b e s s') (hr : s.files.read e.source = .ok source)
    (hc : ensureFresh b.runner e source s = (.ok x, mid)) : s'.files = mid.files := by
  cases h with
  | unread hr' => cases hr.symm.trans hr'
  | unanswered hr' hc' =>
    obtain rfl := Except.ok.inj (hr.symm.trans hr')
    cases hc.symm.trans hc'
  | unpublished hr' hc' hsame =>
    obtain rfl := Except.ok.inj (hr.symm.trans hr')
    cases hc.symm.trans hc'
    exact hsame.1

/-- **Pages are made up to the example that fails.** -/
theorem pages_of_error (entries : List Entry) : ∀ {s s' : Session},
    (entries.mapM (b.buildExample theme)) s = (.error err, s') →
      ∃ pages e after mid, entries = pages.map MadePage.entry ++ e :: after ∧
        MakesAll b theme s pages mid ∧ b.buildExample theme e mid = (.error err, s') := by
  induction entries with
  | nil =>
    intro s s' h
    rw [List.mapM_nil, pure_run] at h
    cases h
  | cons e rest ih =>
    intro s s' h
    rw [List.mapM_cons] at h
    rcases bind_eq_error h with he | ⟨built, s₁, hbuilt, h⟩
    · exact ⟨[], e, rest, s, rfl, .nil, he⟩
    · rcases bind_eq_error h with hrest | ⟨all, s₂, -, h⟩
      · obtain ⟨p, mid, rfl, hp, -⟩ := of_buildExample hbuilt
        obtain ⟨pages, e', after, last, rfl, hpages, hfail⟩ := ih hrest
        exact ⟨p :: pages, e', after, last, rfl, .cons hp hpages, hfail⟩
      · rw [pure_run] at h
        cases h

/-! ## Builds that follow -/

/-- The steps keep something of a session, whether they succeed or not. -/
def Keeps {α : Type} (I : Session → Prop) (m : Building α) : Prop := ∀ s, I s → I (m s).2

theorem Keeps.bind {α β : Type} {I : Session → Prop} {m : Building α} {f : α → Building β}
    (h : Keeps I m) (hf : ∀ a, Keeps I (f a)) : Keeps I (m >>= f) := by
  intro s hs
  have hm := h s hs
  cases hr : m s with
  | mk r s₁ =>
    rw [hr] at hm
    cases r with
    | error err => rw [bind_error hr]; exact hm
    | ok a => rw [bind_ok hr]; exact hf a s₁ hm

theorem keeps_mapM {α β : Type} {I : Session → Prop} {f : α → Building β} (xs : List α)
    (h : ∀ x ∈ xs, Keeps I (f x)) : Keeps I (xs.mapM f) := by
  induction xs with
  | nil =>
    rw [List.mapM_nil]
    exact fun s hs => hs
  | cons x rest ih =>
    rw [List.mapM_cons]
    refine (h x List.mem_cons_self).bind fun a => ?_
    refine (ih fun y hy => h y (List.mem_cons_of_mem _ hy)).bind fun as => ?_
    exact fun s hs => hs

/-- An example is up to date and has not been run. -/
structure Rests (b : Builder) (w : Location) (id : String) (source : List UInt8) (text : List Char)
    (s : Session) : Prop where
  linkless : s.files.Linkless
  workDir : s.files.workDir = w
  current : Current b.layout id source text s.files
  not_run : b.layout.sourceOf id ∉ s.runs

theorem Rests.rewrites {w : Location} {P : Set Path} (h : Rests b w id source text s)
    (ha : Placed b ids w) (hid : id ∈ ids) (hr : Rewrites P s.files s'.files)
    (hP : Avoids w P (b.besides w id)) (hn : b.layout.sourceOf id ∉ s'.runs) :
    Rests b w id source text s' := by
  obtain ⟨hl, rfl, hc, -⟩ := h
  exact ⟨hr.linkless hl, hr.workDir, hc.rewrites ha hid hl hr hP, hn⟩

/-- Sources of different ids are different files. -/
theorem sourceOf_inj {id' : String} (hp : Path.PlainName id.toList)
    (hp' : Path.PlainName id'.toList) (hext : '/' ∉ layout.extension.toList)
    (h : layout.sourceOf id = layout.sourceOf id') :
    id = id' := by
  have hgoal := congrArg (Path.goal []) h
  rw [Layout.goal_sourceOf hp hext, Layout.goal_sourceOf hp' hext] at hgoal
  exact (Layout.beside_inj.1 hgoal).1

section following

variable {w : Location} (ha : Arranged b ids w) (hid : id ∈ ids)
  (hf : ∀ t p, (b.runner.run t p).files = t)

include ha hid hf

/-- **An example that is up to date is not run** when a page is made, its own or another one. -/
theorem keeps_buildExample {others : List String} (he : e ∈ entriesOf b.layout others)
    (hp : Path.PlainName e.id.toList) :
    Keeps (Rests b w id source text) (b.buildExample theme e) := by
  intro s hs
  have hplain := ha.plain id hid
  by_cases hsame : e.id = id
  · -- the call is a hit
    subst hsame
    have hread : s.files.read e.source = .ok source := Layout.source_eq he ▸ hs.current.read
    have hcall := ensureFresh_of_hit b.runner (hs.current.lookUp he)
    rw [buildExample_eq, bind_ok (read_ok hread), bind_ok hcall]
    obtain ⟨hruns, hframe, -⟩ := publish_frame b theme e source
      ⟨text, sourceDigest e.id source, .hit⟩ (s.reporting (.cacheHit e.id))
    refine hs.rewrites ha.placed hid (hframe hs.linkless)
      (avoids_output ha.placed (plainName_page hp)) ?_
    rw [hruns]
    exact hs.not_run
  · have htouch := touches_buildExample hf theme e s hs.linkless
    rw [made_eq he] at htouch
    refine hs.rewrites ha.placed hid htouch
      ((avoids_made ha.placed hp hsame).mono Builder.besides_subset) ?_
    have hne : b.layout.sourceOf id ≠ e.source := by
      rw [Layout.source_eq he]
      exact fun h => hsame (sourceOf_inj hplain hp ha.extension h).symm
    -- what is run is the other source
    have hruns : (b.buildExample theme e s).2.runs = s.runs ∨
        (b.buildExample theme e s).2.runs = s.runs ++ [e.source] := by
      cases hrun : b.buildExample theme e s with
      | mk r s₁ =>
        cases r with
        | error err => exact (fails_of_error hrun).runs_cases
        | ok built =>
          obtain ⟨p, mid, rfl, hmade, -⟩ := of_buildExample hrun
          rw [hmade.runs]
          exact (ensured hmade.answered).runs_cases
    rcases hruns with hr | hr
    · rw [hr]
      exact hs.not_run
    · rw [hr, List.mem_append, List.mem_singleton, not_or]
      exact ⟨hs.not_run, hne⟩

/-- **An example that is up to date is not run** by a build, whatever becomes of it. -/
theorem keeps_build (hs : Rests b w id source text s)
    (hp : ∀ others, enumeratedIds b.layout s.files = .ok others →
      ∀ id ∈ others, Path.PlainName id.toList) : Rests b w id source text (b.build s).2 := by
  obtain ⟨hruns, hprep⟩ := prepare_frame b hs.linkless
  rw [build_eq]
  cases hprepare : b.prepare s with
  | mk r s₁ =>
    rw [hprepare] at hruns hprep
    simp only at hruns hprep
    have hn : b.layout.sourceOf id ∉ s₁.runs := hruns ▸ hs.not_run
    rcases hprep with ⟨⟨err, rfl⟩, hfiles⟩ | ⟨others, t, hothers, hgrows, hsheets, hentries⟩
    · rw [bind_error hprepare]
      exact ⟨hfiles ▸ hs.linkless, hfiles ▸ hs.workDir, hfiles ▸ hs.current, hn⟩
    · -- the style sheets are not beside sources
      have hgrown : Rests b w id source text { s with files := t } :=
        ⟨hs.linkless.grows hgrows, hgrows.workDir.trans hs.workDir,
          hs.current.grows hs.linkless hgrows, hs.not_run⟩
      have hs₁ : Rests b w id source text s₁ := hgrown.rewrites ha.placed hid hsheets
        ((avoids_sheets ha.placed).mono Builder.besides_subset) hn
      cases r with
      | error err => rw [bind_error hprepare]; exact hs₁
      | ok x =>
        rw [bind_ok hprepare, hentries x rfl]
        refine Keeps.bind (keeps_mapM _ fun e he => ?_) (fun built => ?_) s₁ hs₁
        · exact keeps_buildExample ha hid hf he (hp others hothers _ (Layout.id_mem he))
        · intro s₂ hs₂
          have htouch := touches_finish b (entriesOf b.layout others) built s₂ hs₂.linkless
          refine hs₂.rewrites ha.placed hid htouch (avoids_output ha.placed (by decide)) ?_
          rw [finish_runs]
          exact hs₂.not_run

end following

/-! ## Builds that fail -/

/-- **What a build leaves that fails at an example**, beginning with `s` and ending with `s'`. The
pages before the example have been made when the session is `mid`. -/
structure Stopped (b : Builder) (ids : List String) (s : Session) (pages : List MadePage)
    (e : Entry) (after : List Entry) (mid s' : Session) : Prop where
  /-- The pages before the example are there, and their kept files are those of their sources. -/
  made : ∀ p ∈ pages, Standing b p s'.files
  /-- For the examples after it nothing has been written or removed. -/
  later : ∀ x ∈ after, ∀ q ∈ b.made x.id,
    s'.files.fileAt? (q.goal s.files.workDir) = s.files.fileAt? (q.goal s.files.workDir)
  /-- What has been run are the examples before it that were not cached, and maybe the example. -/
  runs : ∃ last, (last = [] ∨ last = [e.source]) ∧ s'.runs = s.runs ++
    ((pages.filter fun p => p.transcript.status.executed).map fun p => p.entry.source) ++ last
  /-- None of the examples after it is among them. -/
  unrun : ∀ x ∈ after, x.source ∉ pages.map (·.entry.source) ++ [e.source]
  /-- Its page and the index are as they were. -/
  unmade : ∀ n, n = e.id ++ ".html" ∨ n = "index.html" →
    s'.files.fileAt? ((b.outputPath n).goal s.files.workDir) =
      s.files.fileAt? ((b.outputPath n).goal s.files.workDir)
  /-- If the manifest is no kept file, a build that follows finds the same examples. -/
  same_ids : (∀ m, b.config.manifest = some m →
    m.goal s.files.workDir ∉ keptPlaces b.layout s.files.workDir ids) →
      enumeratedIds b.layout s'.files = .ok ids
  /-- **A build that follows** runs none of the examples before it, nor the example if there has
  been a transcript for it. -/
  resumed : ∀ runner : Runner, (∀ t p, (runner.run t p).files = t) →
    (∀ others, enumeratedIds b.layout s'.files = .ok others →
      ∀ id ∈ others, Path.PlainName id.toList) →
    let again := ({ b with runner } : Builder).build { files := s'.files }
    (∀ p ∈ pages, p.entry.source ∉ again.2.runs) ∧
      ∀ source x answered, mid.files.read e.source = .ok source →
        ensureFresh b.runner e source mid = (.ok x, answered) → e.source ∉ again.2.runs

section splitting

variable {after : List Entry}
  (hsplit : entriesOf b.layout ids = pages.map MadePage.entry ++ e :: after)

include hsplit

theorem before_mem (hp : p ∈ pages) : p.entry ∈ entriesOf b.layout ids :=
  hsplit ▸ List.mem_append_left _ (List.mem_map_of_mem hp)

theorem here_mem : e ∈ entriesOf b.layout ids := hsplit ▸ List.mem_append_right _ List.mem_cons_self

theorem after_mem {y : Entry} (hy : y ∈ after) : y ∈ entriesOf b.layout ids :=
  hsplit ▸ List.mem_append_right _ (List.mem_cons_of_mem _ hy)

/-- The entries before, at and after a place in the catalog are those of different ids. -/
theorem ids_split (hn : ids.Nodup) :
    (pages.map (·.entry.id)).Nodup ∧ (∀ p ∈ pages, p.entry.id ≠ e.id) ∧
      ∀ y ∈ after, e.id ≠ y.id ∧ ∀ p ∈ pages, p.entry.id ≠ y.id := by
  have hids : ids = pages.map (·.entry.id) ++ e.id :: after.map Entry.id := by
    have hall := congrArg (List.map Entry.id) hsplit
    rwa [Layout.ids_entriesOf, List.map_append, List.map_map, List.map_cons] at hall
  rw [hids, List.nodup_append] at hn
  obtain ⟨hbefore, hafter, hapart⟩ := hn
  refine ⟨hbefore, fun p hp => ?_, fun y hy => ⟨fun he => ?_, fun p hp => ?_⟩⟩
  · exact hapart _ (List.mem_map_of_mem hp) _ List.mem_cons_self
  · exact (List.nodup_cons.1 hafter).1 (he ▸ List.mem_map_of_mem hy)
  · exact hapart _ (List.mem_map_of_mem hp) _
      (List.mem_cons_of_mem _ (List.mem_map_of_mem hy))

/-- The examples after the one that fails have other sources. -/
theorem source_after {w : Location} (ha : Arranged b ids w) {y : Entry} (hy : y ∈ after) :
    y.source ∉ pages.map (·.entry.source) ++ [e.source] := by
  obtain ⟨-, -, hother⟩ := ids_split hsplit ha.distinct
  have hsource : ∀ {z : Entry}, z ∈ entriesOf b.layout ids → y.source = z.source → z.id = y.id := by
    intro z hz hs
    have hy' := after_mem hsplit hy
    rw [Layout.source_eq hy', Layout.source_eq hz] at hs
    exact (sourceOf_inj (ha.plain _ (Layout.id_mem hy')) (ha.plain _ (Layout.id_mem hz))
      ha.extension hs).symm
  intro hin
  rcases List.mem_append.1 hin with hin | hin
  · obtain ⟨p, hp, hs⟩ := List.mem_map.1 hin
    exact (hother y hy).2 p hp (hsource (before_mem hsplit hp) hs.symm)
  · exact (hother y hy).1 (hsource (here_mem hsplit) (List.mem_singleton.1 hin))

end splitting

section stopped

variable {start : Session} {after : List Entry} (hl : s.files.Linkless)
  (hf : ∀ t p, (b.runner.run t p).files = t) (hids : enumeratedIds b.layout s.files = .ok ids)
  (ha : Arranged b ids s.files.workDir)
  (hprepare : b.prepare s = (.ok (theme, entriesOf b.layout ids), start))
  (hsplit : entriesOf b.layout ids = pages.map MadePage.entry ++ e :: after)
  (hmade : MakesAll b theme start pages mid) (hfail : Fails b e mid s')

include hl hf hids ha hprepare hsplit hmade

/-- **What has been changed when the page of an example is to be made**: the style sheets, and what
is made for the examples before it. -/
theorem before_rewrites : ∃ t, Grows {l | l ∈ b.config.output.way s.files.workDir} s.files t ∧
    t.Linkless ∧
    Rewrites {q | q ∈ b.sheets ∨ ∃ p ∈ pages, q ∈ b.made p.entry.id} t mid.files ∧
    ∀ p ∈ pages, Standing b p mid.files := by
  obtain ⟨-, hprep⟩ := prepare_frame b hl
  rw [hprepare] at hprep
  rcases hprep with ⟨⟨err, he⟩, -⟩ | ⟨ids', t, hids', hgrows, hsheets, -⟩
  · cases he
  obtain rfl := Except.ok.inj (hids'.symm.trans hids)
  have hl₁ : t.Linkless := hl.grows hgrows
  have hw : start.files.workDir = s.files.workDir := hsheets.workDir.trans hgrows.workDir
  have hl₂ : start.files.Linkless := hsheets.linkless hl₁
  refine ⟨t, hgrows, hl₁, (hsheets.mono ?_).trans ((hmade.rewrites hf hl₂).mono ?_), ?_⟩
  · exact fun q hq => .inl hq
  · rintro q ⟨p, hp, hq⟩
    exact .inr ⟨p, hp, MadePage.written_subset (before_mem hsplit hp) hq⟩
  · exact hmade.standing hf (hw ▸ ha.placed) (fun p hp => before_mem hsplit hp)
      (ids_split hsplit ha.distinct).1 hl₂

theorem mid_files : mid.files.Linkless ∧ mid.files.workDir = s.files.workDir := by
  obtain ⟨t, hgrows, hl₁, hr, -⟩ := before_rewrites hl hf hids ha hprepare hsplit hmade
  exact ⟨hr.linkless hl₁, hr.workDir.trans hgrows.workDir⟩

include hfail

/-- **The pages before the example stand.** -/
theorem stopped_standing : ∀ p ∈ pages, Standing b p s'.files := by
  obtain ⟨t, -, -, -, hstanding⟩ := before_rewrites hl hf hids ha hprepare hsplit hmade
  obtain ⟨hl', hw⟩ := mid_files hl hf hids ha hprepare hsplit hmade
  have he := here_mem hsplit
  intro p hp
  -- the kept files of the example are not theirs
  have hother : Avoids mid.files.workDir (b.made e.id) _ := avoids_made (hw ▸ ha.placed)
    (ha.plain _ (Layout.id_mem he)) ((ids_split hsplit ha.distinct).2.1 p hp).symm
  rw [← made_eq he] at hother
  exact (hstanding p hp).rewrites (hw ▸ ha.placed) (Layout.id_mem (before_mem hsplit hp)) hl'
    (hfail.rewrites hf hl') (hother.sub (Set.subset_insert _ _))

/-- **What is at other places** is as it was. -/
theorem stopped_fileAt? {l : Location} (hsheets : Avoids s.files.workDir b.sheets {l})
    (hpages : ∀ p ∈ pages, Avoids s.files.workDir (b.made p.entry.id) {l})
    (hkept : Avoids s.files.workDir (Set.range (b.layout.keptOf e.id)) {l}) :
    s'.files.fileAt? l = s.files.fileAt? l := by
  obtain ⟨t, hgrows, -, hr, -⟩ := before_rewrites hl hf hids ha hprepare hsplit hmade
  obtain ⟨hl', hw⟩ := mid_files hl hf hids ha hprepare hsplit hmade
  have hlast := hfail.rewrites hf hl'
  rw [show e.kept = b.layout.keptOf e.id from funext (Layout.kept_eq (here_mem hsplit))] at hlast
  rw [hlast.fileAt?_eq, hr.fileAt?_eq, hgrows.fileAt?_eq]
  · rintro q (hq | ⟨p, hp, hq⟩) he
    · exact hsheets q hq (hgrows.workDir ▸ he)
    · exact hpages p hp q hq (hgrows.workDir ▸ he)
  · intro q hq he
    exact hkept q hq (hw ▸ he)

/-- The examples after it have nothing written or removed. -/
theorem stopped_later {y : Entry} (hy : y ∈ after) {q : Path} (hq : q ∈ b.made y.id) :
    s'.files.fileAt? (q.goal s.files.workDir) = s.files.fileAt? (q.goal s.files.workDir) := by
  have hplain : ∀ {z : Entry}, z ∈ entriesOf b.layout ids → Path.PlainName z.id.toList :=
    fun hz => ha.plain _ (Layout.id_mem hz)
  obtain ⟨hne, hbefore⟩ := (ids_split hsplit ha.distinct).2.2 y hy
  have hsub := Set.singleton_subset_iff.2
    (goal_made (w := s.files.workDir) (hplain (after_mem hsplit hy)) hq)
  refine stopped_fileAt? hl hf hids ha hprepare hsplit hmade hfail
    ((avoids_sheets ha.placed).mono hsub) (fun p hp => ?_) ?_
  · exact (avoids_made ha.placed (hplain (before_mem hsplit hp)) (hbefore p hp)).mono hsub
  · exact ((avoids_made ha.placed (hplain (here_mem hsplit)) hne).mono hsub).sub
      (Set.subset_insert _ _)

/-- **Its page and the index** are as they were. -/
theorem stopped_unmade (hi : "index" ∉ ids) {n : String}
    (hn : n = e.id ++ ".html" ∨ n = "index.html") :
    s'.files.fileAt? ((b.outputPath n).goal s.files.workDir) =
      s.files.fileAt? ((b.outputPath n).goal s.files.workDir) := by
  have hplain : ∀ {z : Entry}, z ∈ entriesOf b.layout ids → Path.PlainName z.id.toList :=
    fun hz => ha.plain _ (Layout.id_mem hz)
  have he := here_mem hsplit
  have hname : Path.PlainName n.toList ∧ n ≠ "site.css" ∧ n ≠ "code.css" := by
    rcases hn with rfl | rfl
    · exact ⟨plainName_page (hplain he), page_ne_sheet (.inl rfl), page_ne_sheet (.inr rfl)⟩
    · decide
  have hother : ∀ p ∈ pages, p.entry.id ++ ".html" ≠ n := by
    rintro p hp rfl
    rcases hn with h | h
    · exact (ids_split hsplit ha.distinct).2.1 p hp (page_inj h)
    · have hindex : p.entry.id = "index" := page_inj h
      exact hi (hindex ▸ Layout.id_mem (before_mem hsplit hp))
  refine stopped_fileAt? hl hf hids ha hprepare hsplit hmade hfail ?_ (fun p hp => ?_) ?_
  · rintro q (rfl | rfl)
    · exact avoids_name (by decide) hname.1 hname.2.1.symm _ rfl
    · exact avoids_name (by decide) hname.1 hname.2.2.symm _ rfl
  · exact avoids_made_name ha.placed (hplain (before_mem hsplit hp)) hname.1 (hother p hp)
  · exact avoids_kept ha.placed (hplain he) hname.1

/-- **What is up to date is not run** by a build that follows. -/
theorem stopped_resumed {runner : Runner} (hrunner : ∀ t p, (runner.run t p).files = t)
    (hothers : ∀ others, enumeratedIds b.layout s'.files = .ok others →
      ∀ id ∈ others, Path.PlainName id.toList) {y : Entry} (hy : y ∈ entriesOf b.layout ids)
    (hc : Current b.layout y.id source text s'.files) :
    y.source ∉ (({ b with runner } : Builder).build { files := s'.files }).2.runs := by
  obtain ⟨hl', hw⟩ := mid_files hl hf hids ha hprepare hsplit hmade
  have hlast := hfail.rewrites hf hl'
  have hrests : Rests { b with runner } s.files.workDir y.id source text { files := s'.files } :=
    ⟨hlast.linkless hl', hlast.workDir.trans hw, hc, List.not_mem_nil⟩
  rw [Layout.source_eq hy]
  exact (keeps_build (ha.withRunner runner) (Layout.id_mem hy) hrunner hrests hothers).not_run

end stopped

/-- **A build that fails at an example.** -/
theorem stopped {start : Session} {after : List Entry} (hl : s.files.Linkless)
    (hf : ∀ t p, (b.runner.run t p).files = t) (hids : enumeratedIds b.layout s.files = .ok ids)
    (ha : Arranged b ids s.files.workDir) (hi : "index" ∉ ids)
    (hprepare : b.prepare s = (.ok (theme, entriesOf b.layout ids), start))
    (hsplit : entriesOf b.layout ids = pages.map MadePage.entry ++ e :: after)
    (hmade : MakesAll b theme start pages mid)
    (hfail : b.buildExample theme e mid = (.error err, s')) (hbuild : (b.build s).2 = s') :
    Stopped b ids s pages e after mid s' := by
  have hfails := fails_of_error hfail
  have hstanding := stopped_standing hl hf hids ha hprepare hsplit hmade hfails
  obtain ⟨hl', hw⟩ := mid_files hl hf hids ha hprepare hsplit hmade
  refine ⟨hstanding, fun y hy q hq => ?_, ?_, fun y hy => source_after hsplit ha hy,
    fun n hn => ?_, fun hm => ?_, fun runner hfiles hothers => ⟨fun p hp => ?_, ?_⟩⟩
  · exact stopped_later hl hf hids ha hprepare hsplit hmade hfails hy hq
  · have hstart := (of_prepare hprepare).runs
    rcases hfails.runs_cases with hr | hr
    · exact ⟨[], .inl rfl, by rw [hr, hmade.runs, hstart, List.append_nil]⟩
    · exact ⟨[e.source], .inr rfl, by rw [hr, hmade.runs, hstart]⟩
  · exact stopped_unmade hl hf hids ha hprepare hsplit hmade hfails hi hn
  · rw [← hbuild]
    exact build_ids hl hf ha hids hm
  · exact stopped_resumed hl hf hids ha hprepare hsplit hmade hfails hfiles hothers
      (before_mem hsplit hp) (hstanding p hp).current
  · intro source x answered hs hx
    have he := here_mem hsplit
    have hcurrent := Ensured.current (hw ▸ ha.placed) he hl' hf hx hs
    rw [← hfails.answered hs hx] at hcurrent
    exact stopped_resumed hl hf hids ha hprepare hsplit hmade hfails hfiles hothers he hcurrent

/-- **A build that fails at an example is a clean prefix, and can be resumed.** There are no links,
the runner touches no file, the paths are `Arranged`, so that the way to the output directory does
not go into the examples either, and none of the examples goes by the name of the index. Then a
build that fails does so before any page is made, or after all pages have been made; or it has made
some pages when making another one fails. In this case the pages before that one are there, with
kept files that are those of their sources; for the examples after it nothing has been run, written
or removed; its page and the index are as they were; and a build that follows, whatever its runner
does, runs none of the examples before it, nor the example itself if there has been a transcript for
it. -/
theorem failed_build_resumes (hl : s.files.Linkless) (hf : ∀ t p, (b.runner.run t p).files = t)
    (hids : enumeratedIds b.layout s.files = .ok ids) (ha : Arranged b ids s.files.workDir)
    (hi : "index" ∉ ids) (h : b.build s = (.error err, s')) :
    b.prepare s = (.error err, s') ∨
      ∃ theme start, b.prepare s = (.ok (theme, entriesOf b.layout ids), start) ∧
        ((∃ pages last, pages.map MadePage.entry = entriesOf b.layout ids ∧
            MakesAll b theme start pages last ∧
            b.writeIndex (pages.map (·.shown b)) last = (.error err, s')) ∨
          ∃ pages e after mid, entriesOf b.layout ids = pages.map MadePage.entry ++ e :: after ∧
            MakesAll b theme start pages mid ∧ b.buildExample theme e mid = (.error err, s') ∧
            Stopped b ids s pages e after mid s') := by
  have hbuild : (b.build s).2 = s' := by rw [h]
  rw [build_eq] at h
  rcases bind_eq_error h with hprepare | ⟨⟨theme, entries⟩, start, hprepare, h⟩
  · exact .inl hprepare
  have hentries : entries = entriesOf b.layout ids := by
    have hlisted := (of_prepare hprepare).listed
    rw [(of_prepare hprepare).entries_eq, Except.ok.inj (hlisted.symm.trans hids)]
  subst hentries
  refine .inr ⟨theme, start, hprepare, ?_⟩
  rcases bind_eq_error h with hpages | ⟨built, last, hpages, hfinish⟩
  · obtain ⟨pages, e, after, mid, hsplit, hmade, hfail⟩ := pages_of_error _ hpages
    exact .inr ⟨pages, e, after, mid, hsplit, hmade, hfail,
      stopped hl hf hids ha hi hprepare hsplit hmade hfail hbuild⟩
  · obtain ⟨pages, hmap, hmade, rfl⟩ := of_pages _ hpages
    refine .inl ⟨pages, last, hmap, hmade, ?_⟩
    rcases bind_eq_error hfinish with hindex | ⟨_, s₁, -, hreport⟩
    · rw [List.map_map] at hindex
      exact hindex
    · rw [bind_ok (report_run _ _)] at hreport
      cases hreport

/-- A runner that runs empty sources only. -/
def fussy : Runner where
  run t p :=
    { files := t
      result := match t.read p with
        | .ok [] => .ok []
        | _ => .error (.failed "sh" p "exit status: 1" []) }

/-- The index fails if it cannot be rendered or written. -/
theorem writeIndex_error {examples : List Example}
    (h : b.writeIndex examples s = (.error err, s')) :
    (∃ cause, err = .render cause) ∨ ∃ cause, err = .io (b.outputPath "index.html") cause := by
  obtain ⟨names, hrun⟩ := writeIndex_run b examples s
  rw [h] at hrun
  split at hrun
  · next cause _ =>
    cases hrun
    exact .inl ⟨cause, rfl⟩
  · split at hrun
    · next cause _ =>
      cases hrun
      exact .inr ⟨cause, rfl⟩
    · cases hrun

/-- Of two examples the second one fails; the page of the first one is there, and it is not run
again. -/
theorem failed_build_resumes_two :
    let b : Builder := { oneExample with runner := fussy }
    let t := twoPages
    ∃ s', b.build { files := t } =
        (.error (.execution (.failed "sh" (b.layout.sourceOf "b") "exit status: 1" [])), s') ∧
      (∃ html, s'.files.read (b.outputPath "a.html") = .ok (Utf8.encode html)) ∧
      (∃ source text, Current b.layout "a" source text s'.files) ∧
      b.layout.sourceOf "a" ∉ (oneExample.build { files := s'.files }).2.runs := by
  intro b t
  have hids : enumeratedIds b.layout t = .ok ["a", "b"] := by decide +kernel
  have ha : Arranged b ["a", "b"] t.workDir := arranged_twoPages.withRunner fussy
  have hfailed : (b.build { files := t }).1 =
      .error (.execution (.failed "sh" (b.layout.sourceOf "b") "exit status: 1" [])) := by
    decide +kernel
  have hprepared : (b.prepare { files := t }).1.isOk = true := by decide +kernel
  have hruns : (b.build { files := t }).2.runs.length = 2 := by decide +kernel
  have hlinks : t.Linkless := noLink_of_entries (by decide)
  have hfiles : ∀ t p, (b.runner.run t p).files = t := fun _ _ => rfl
  have hmanifest : b.config.manifest = none := rfl
  have hagain : oneExample = { b with runner := echo } := rfl
  have hfirst : entriesOf b.layout ["a", "b"] =
    [entryOf b.layout none "a" (some "b"), entryOf b.layout (some "a") "b" none] := rfl
  -- from here on it does not matter what the site is
  clear_value b t
  cases hbuild : b.build { files := t } with
  | mk r s' =>
    rw [hbuild] at hfailed hruns
    obtain rfl := hfailed
    refine ⟨s', rfl, ?_⟩
    rcases failed_build_resumes hlinks hfiles hids ha (by decide) hbuild with hprepare |
      ⟨theme, start, -, ⟨pages, last, -, -, hindex⟩ | ⟨pages, e, after, mid, hsplit, -, -, h⟩⟩
    · rw [hprepare] at hprepared
      cases hprepared
    · rcases writeIndex_error hindex with ⟨cause, he⟩ | ⟨cause, he⟩ <;> cases he
    · -- two examples have been run, so there is one before the one that fails
      obtain ⟨p, rfl⟩ : ∃ p, pages = [p] := by
        obtain ⟨last, hlast, hr⟩ := h.runs
        have hlen := congrArg List.length hsplit
        rw [hr] at hruns
        rcases pages with - | ⟨p, - | ⟨q, rest⟩⟩
        · rcases hlast with rfl | rfl <;> cases hruns
        · exact ⟨p, rfl⟩
        · simp at hlen
      have hentry : p.entry = entryOf b.layout none "a" (some "b") :=
        (List.cons.inj (hfirst.symm.trans hsplit)).1.symm
      have hplain : ∀ others, enumeratedIds b.layout s'.files = .ok others →
          ∀ id ∈ others, Path.PlainName id.toList := by
        intro others hothers
        have hsame := h.same_ids fun m hm => by rw [hmanifest] at hm; cases hm
        obtain rfl := Except.ok.inj (hothers.symm.trans hsame)
        exact ha.plain
      have hstanding := h.made p (List.mem_singleton_self p)
      have hpage := hstanding.page
      have hcurrent := hstanding.current
      have hresumed := (h.resumed echo (fun _ _ => rfl) hplain).1 p (List.mem_singleton_self p)
      unfold MadePage.name at hpage
      rw [hentry] at hpage hcurrent hresumed
      rw [hagain]
      exact ⟨⟨_, hpage⟩, ⟨_, _, hcurrent⟩, hresumed⟩

end LiterateSite.Site
