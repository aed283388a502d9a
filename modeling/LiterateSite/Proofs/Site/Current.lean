import LiterateSite.Proofs.Site.Inputs

/-!
# Examples that are up to date

In trees without links, with a runner that touches no file.

* `besides`, `placesOf`, `Avoids`: the places of the files of an id, and paths that lead elsewhere.
* `Current`: **the kept files of an id are those of its source.** `Current.lookUp`: they are a hit.
* `Answered`, `Ensured.answered`: **how a call that succeeds is answered.** `Ensured.current`: it
  leaves the kept files up to date.
* `publish`, `buildExample_eq`: what follows on the call when a page is made.
* `Standing`: **a page and its kept files are there as they were made.** `Makes.standing`,
  `MakesAll.standing`: pages that are made stand.
-/

namespace LiterateSite.Site

open Files Files.Tree Text Building

variable {b : Builder} {theme : Highlight.Theme} {ids : List String} {id id' n : String}
  {e : Entry} {layout : Layout} {w : Location} {L M : Set Location} {P Q : Set Path} {q : Path}
  {s mid s' : Session} {t t' : Tree} {source content : List UInt8} {text : List Char}
  {x : Transcript} {p : MadePage} {pages : List MadePage}

/-! ## The places of an example -/

namespace Builder

/-- The places of the files beside the source of an id. -/
def besides (b : Builder) (w : Location) (id : String) : Set Location :=
  {l | ∃ ext, l = b.layout.beside w id ext}

/-- The places of the files beside the source of an id, and of its page. -/
def placesOf (b : Builder) (w : Location) (id : String) : Set Location :=
  insert (.text (id ++ ".html").toList :: b.config.output.goal w) (b.besides w id)

theorem besides_subset : b.besides w id ⊆ b.placesOf w id := Set.subset_insert _ _

end Builder

/-- None of the paths leads to one of the places. -/
def Avoids (w : Location) (P : Set Path) (L : Set Location) : Prop := ∀ p ∈ P, p.goal w ∉ L

theorem Avoids.mono (h : Avoids w P L) (hs : M ⊆ L) : Avoids w P M :=
  fun p hp hl => h p hp (hs hl)

theorem Avoids.sub (h : Avoids w P L) (hs : Q ⊆ P) : Avoids w Q L := fun p hp => h p (hs hp)

/-- What can be read at one of the places can still be read. -/
theorem Avoids.read_of_ok (h : Avoids t.workDir P L) (hr : Rewrites P t t') (hl : t.Linkless)
    (hq : q.goal t.workDir ∈ L) (hread : t.read q = .ok content) : t'.read q = .ok content :=
  hr.read_of_ok hl (fun p hp he => h p hp (he ▸ hq)) hread

theorem goal_outputPath (hn : Path.PlainName n.toList) :
    (b.outputPath n).goal w = .text n.toList :: b.config.output.goal w := Path.goal_join_plain hn

/-- The name of a page ends in another character. -/
theorem page_ne_sheet (h : n = "site.css" ∨ n = "code.css") : id ++ ".html" ≠ n := by
  rintro rfl
  have hlast : (id ++ ".html").toList.getLast? = some 'l' := by
    rw [String.toList_append, List.getLast?_append_of_ne_nil _ (by decide)]
    rfl
  rcases h with h | h <;> rw [h] at hlast <;> cases hlast

/-- Files of the output are told apart by their names. -/
theorem avoids_name {m : String} (hn : Path.PlainName n.toList) (hm : Path.PlainName m.toList)
    (hne : n ≠ m) : Avoids w {b.outputPath n} {(b.outputPath m).goal w} := by
  rintro p rfl he
  rw [Set.mem_singleton_iff, goal_outputPath hn, goal_outputPath hm] at he
  exact hne (String.toList_inj.1 (Name.text.inj (List.cons.inj he).1))

theorem Arranged.withRunner (ha : Arranged b ids w) (runner : Runner) :
    Arranged { b with runner } ids w :=
  ⟨ha.distinct, ha.plain, ha.extension, ha.not_kept, ha.output_way, ha.output_ne,
    ha.manifest_apart⟩

/-- **How the files of the output lie to the examples**: they are elsewhere, wherever the way to
them leads. -/
structure Placed (b : Builder) (ids : List String) (w : Location) : Prop where
  distinct : ids.Nodup
  plain : ∀ id ∈ ids, Path.PlainName id.toList
  extension : '/' ∉ b.config.extension.toList
  not_kept : ∀ k : Kept, b.config.extension ≠ k.suffix
  output_not_inside : ∀ n, ¬ b.layout.Inside w (n :: b.config.output.goal w)

theorem Arranged.placed (ha : Arranged b ids w) : Placed b ids w :=
  ⟨ha.distinct, ha.plain, ha.extension, ha.not_kept, ha.output_not_inside⟩

section placed

variable (ha : Placed b ids w)

include ha

/-- The files of the output are not beside sources. -/
theorem avoids_output (hn : Path.PlainName n.toList) :
    Avoids w {b.outputPath n} (b.besides w id) := by
  rintro p rfl ⟨ext, he⟩
  rw [goal_outputPath hn] at he
  exact ha.output_not_inside _ (he ▸ Layout.inside_beside)

theorem avoids_output_of_ne (hn : Path.PlainName n.toList) (hne : n ≠ id ++ ".html") :
    Avoids w {b.outputPath n} (b.placesOf w id) := by
  rintro p rfl (he | hl)
  · rw [goal_outputPath hn] at he
    exact hne (String.toList_inj.1 (Name.text.inj (List.cons.inj he).1))
  · exact avoids_output ha hn _ rfl hl

theorem avoids_index (hne : id ≠ "index") :
    Avoids w {b.outputPath "index.html"} (b.placesOf w id) := by
  exact avoids_output_of_ne ha (by decide) fun h => hne (page_inj h.symm)

theorem avoids_sheets : Avoids w b.sheets (b.placesOf w id) := by
  rintro p (rfl | rfl)
  · exact avoids_output_of_ne ha (by decide) (page_ne_sheet (.inl rfl)).symm _ rfl
  · exact avoids_output_of_ne ha (by decide) (page_ne_sheet (.inr rfl)).symm _ rfl

/-- Kept files are not in the output. -/
theorem avoids_kept (hp : Path.PlainName id.toList) (hn : Path.PlainName n.toList) :
    Avoids w (Set.range (b.layout.keptOf id)) {(b.outputPath n).goal w} := by
  rintro p ⟨k, rfl⟩ he
  rw [Set.mem_singleton_iff, Layout.goal_keptOf hp, goal_outputPath hn] at he
  exact ha.output_not_inside _ (he ▸ Layout.inside_beside)

/-- The source of an example is none of its kept files. -/
theorem goal_kept_ne_source (hid : id ∈ ids) (k : Kept) :
    (b.layout.keptOf id k).goal w ≠ (b.layout.sourceOf id).goal w := by
  rw [Layout.goal_keptOf (ha.plain id hid), Layout.goal_sourceOf (ha.plain id hid) ha.extension]
  exact fun hgoal => ha.not_kept k (Layout.beside_inj.1 hgoal).2.symm

/-- What is made for an id is no other file of the output. -/
theorem avoids_made_name (hp : Path.PlainName id.toList) (hn : Path.PlainName n.toList)
    (hne : id ++ ".html" ≠ n) : Avoids w (b.made id) {(b.outputPath n).goal w} := by
  rintro q (rfl | hq)
  · exact avoids_name (plainName_page hp) hn hne _ rfl
  · exact avoids_kept ha hp hn q hq

omit ha in
/-- What is made for an id is at its places. -/
theorem goal_made (hp : Path.PlainName id.toList) (hq : q ∈ b.made id) :
    q.goal w ∈ b.placesOf w id := by
  rcases hq with rfl | ⟨k, rfl⟩
  · exact .inl (goal_outputPath (plainName_page hp))
  · exact .inr ⟨_, Layout.goal_keptOf hp k⟩

/-- **What is made for another id** is elsewhere. -/
theorem avoids_made (hp : Path.PlainName id'.toList) (hne : id' ≠ id) :
    Avoids w (b.made id') (b.placesOf w id) := by
  rintro p (rfl | ⟨k, rfl⟩)
  · exact avoids_output_of_ne ha (plainName_page hp) (fun h => hne (page_inj h)) _ rfl
  · rw [Layout.goal_keptOf hp]
    rintro (he | ⟨ext, he⟩)
    · exact ha.output_not_inside _ (he ▸ Layout.inside_beside)
    · exact hne (Layout.beside_inj.1 he).1

end placed

/-! ## Kept files that are up to date -/

/-- **The kept files of an id are those of its source**: the digest is that of the source, and the
transcript has the text. -/
structure Current (layout : Layout) (id : String) (source : List UInt8) (text : List Char)
    (t : Tree) : Prop where
  read : t.read (layout.sourceOf id) = .ok source
  digest : ∃ known, t.read (layout.keptOf id .digest) = .ok known ∧
    trim (Utf8.decodeLossy known) = (sourceDigest id source).toList
  transcript : ∃ bytes, t.read (layout.keptOf id .transcript) = .ok bytes ∧
    Utf8.decodeLossy bytes = text

/-- Kept files that are up to date are there. -/
theorem Current.kept_there (h : Current layout id source text t) (k : Kept) :
    ∃ content, t.read (layout.keptOf id k) = .ok content := by
  cases k with
  | digest => exact ⟨_, h.digest.choose_spec.1⟩
  | transcript => exact ⟨_, h.transcript.choose_spec.1⟩

/-- **Kept files that are up to date are a hit.** -/
theorem Current.lookUp (h : Current layout e.id source text t) (he : e ∈ entriesOf layout ids) :
    lookUp t e (sourceDigest e.id source) = .ok (.hit, text) := by
  obtain ⟨known, hknown, hdigest⟩ := h.digest
  obtain ⟨bytes, hbytes, rfl⟩ := h.transcript
  rw [← Layout.hashPath_eq he] at hknown
  rw [← Layout.transcriptPath_eq he] at hbytes
  exact lookUp_of_both (read_eq_ok.1 hknown) hdigest (read_eq_ok.1 hbytes)

/-- **What is up to date stays so** if the source can still be read, and the kept files can. -/
theorem Current.mono (h : Current layout id source text t)
    (hs : t'.read (layout.sourceOf id) = .ok source)
    (hk : ∀ k content, t.read (layout.keptOf id k) = .ok content →
      t'.read (layout.keptOf id k) = .ok content) : Current layout id source text t' := by
  obtain ⟨known, hknown, hdigest⟩ := h.digest
  obtain ⟨bytes, hbytes, htext⟩ := h.transcript
  exact ⟨hs, ⟨known, hk .digest known hknown, hdigest⟩, ⟨bytes, hk .transcript bytes hbytes, htext⟩⟩

/-- **What is up to date stays so** while other files are changed. -/
theorem Current.rewrites (h : Current b.layout id source text t) (ha : Placed b ids t.workDir)
    (hid : id ∈ ids) (hl : t.Linkless) (hr : Rewrites P t t')
    (hP : Avoids t.workDir P (b.besides t.workDir id)) : Current b.layout id source text t' := by
  refine h.mono (hP.read_of_ok hr hl ?_ h.read) fun k content hread => ?_
  · exact ⟨_, Layout.goal_sourceOf (ha.plain id hid) ha.extension⟩
  · exact hP.read_of_ok hr hl ⟨_, Layout.goal_keptOf (ha.plain id hid) k⟩ hread

theorem Current.grows {W : Set Location} (h : Current layout id source text t) (hl : t.Linkless)
    (hg : Grows W t t') : Current layout id source text t' :=
  h.mono (hg.read_of_ok hl h.read) fun _ _ hread => hg.read_of_ok hl hread

/-- **How a call is answered**, when the files are `t` before it and `t'` after it: by the kept
files, if they are up to date; or else by a run, and then they are those of its output. -/
inductive Answered (b : Builder) (id : String) (source : List UInt8) (t : Tree) :
    Transcript → Tree → Prop
  | kept {text : List Char} {t' : Tree} (h : Current b.layout id source text t)
    (hsame : ∀ k, t'.read (b.layout.keptOf id k) = t.read (b.layout.keptOf id k)) :
    Answered b id source t ⟨text, sourceDigest id source, .hit⟩ t'
  | run {status : Status} {output : List UInt8} {t' u : Tree} (hstatus : status ≠ .hit)
    (hnot : ∀ text, ¬ Current b.layout id source text t)
    (hu : u.read (b.layout.sourceOf id) = .ok source)
    (ho : (b.runner.run u (b.layout.sourceOf id)).result = .ok output)
    (hkept : ∀ k, t'.read (b.layout.keptOf id k) = .ok (k.content id source output)) :
    Answered b id source t ⟨transcriptText id output, sourceDigest id source, status⟩ t'

/-- **An answer** leaves the kept files up to date. -/
theorem Answered.current (h : Answered b id source t x t')
    (hs : t'.read (b.layout.sourceOf id) = .ok source) :
    Current b.layout id source x.text t' := by
  cases h with
  | kept h hsame => exact h.mono hs fun k content hread => (hsame k).trans hread
  | run _ _ _ _ hkept =>
    refine ⟨hs, ⟨_, hkept .digest, ?_⟩, ⟨_, hkept .transcript, Utf8.decodeLossy_encode _⟩⟩
    exact (kept_digest_iff id source source).2 rfl

/-- **An answer** stands while other files are changed. -/
theorem Answered.rewrites {u : Tree} (h : Answered b id source t x t')
    (ha : Placed b ids t'.workDir) (hid : id ∈ ids) (hl : t'.Linkless) (hr : Rewrites P t' u)
    (hP : Avoids t'.workDir P (b.besides t'.workDir id)) : Answered b id source t x u := by
  have hstay : ∀ k content, t'.read (b.layout.keptOf id k) = .ok content →
      u.read (b.layout.keptOf id k) = .ok content := fun k content hread =>
    hP.read_of_ok hr hl ⟨_, Layout.goal_keptOf (ha.plain id hid) k⟩ hread
  cases h with
  | kept h hsame =>
    refine .kept h fun k => ?_
    obtain ⟨content, hread⟩ := h.kept_there k
    rw [hread]
    exact hstay k content ((hsame k).trans hread)
  | run hstatus hnot hu ho hkept =>
    exact .run hstatus hnot hu ho fun k => hstay k _ (hkept k)

section calls

variable (ha : Placed b ids s.files.workDir) (he : e ∈ entriesOf b.layout ids)
  (hl : s.files.Linkless) (hf : ∀ t p, (b.runner.run t p).files = t)

include ha he hl hf

/-- A call leaves the source of its example as it is. -/
theorem source_of_call {r : Except BuildError Transcript}
    (h : ensureFresh b.runner e source s = (r, mid))
    (hs : s.files.read e.source = .ok content) : mid.files.read e.source = .ok content := by
  have hr := touches_ensureFresh hf e source s hl
  rw [h] at hr
  refine hr.read_of_ok hl ?_ hs
  rintro p ⟨k, rfl⟩ hgoal
  rw [Layout.kept_eq he, Layout.source_eq he] at hgoal
  exact goal_kept_ne_source ha (Layout.id_mem he) k hgoal

/-- **A call that succeeds** is answered. -/
theorem Ensured.answered (h : ensureFresh b.runner e source s = (.ok x, mid))
    (hs : s.files.read e.source = .ok source) :
    Answered b e.id source s.files x mid.files := by
  have hplain := ha.plain e.id (Layout.id_mem he)
  cases ensured h with
  | hit hlook =>
    obtain ⟨known, bytes, hknown, hdigest, hbytes, rfl⟩ := lookUp_hit hlook
    rw [Layout.hashPath_eq he] at hknown
    rw [Layout.transcriptPath_eq he] at hbytes
    rw [Layout.source_eq he] at hs
    exact .kept ⟨hs, ⟨known, read_eq_ok.2 hknown, hdigest⟩, ⟨bytes, read_eq_ok.2 hbytes, rfl⟩⟩
      fun _ => rfl
  | renewed hstatus hlook hr =>
    have hnot : ∀ text, ¬ Current b.layout e.id source text s.files := by
      intro text hcurrent
      rw [hcurrent.lookUp he] at hlook
      cases hlook
      exact hstatus rfl
    cases hr with
    | @done t₁ t₂ t₃ output hd ho hx hh =>
      rw [hf] at hx
      have hremove := rewrites_removeIfThere hl hd
      have hl₁ : t₁.Linkless := hremove.linkless hl
      have hl₂ : t₂.Linkless := (rewrites_write hl₁ hx).linkless hl₁
      have hsource : t₁.read e.source = .ok source := by
        refine hremove.read_of_ok hl ?_ hs
        rintro p rfl hgoal
        rw [Layout.hashPath_eq he, Layout.source_eq he] at hgoal
        exact goal_kept_ne_source ha (Layout.id_mem he) .digest hgoal
      -- the digest is written last, and leaves the transcript as it is
      have hdigest : t₃.read e.hashPath = .ok (Utf8.ofString (sourceDigest e.id source)) :=
        read_of_write hl₂ hh
      have htranscript : t₃.read e.transcriptPath =
          .ok (Utf8.encode (transcriptText e.id output)) := by
        refine (rewrites_write hl₂ hh).read_of_ok hl₂ ?_ (read_of_write hl₁ hx)
        rintro p rfl hgoal
        rw [Layout.hashPath_eq he, Layout.transcriptPath_eq he, Layout.goal_keptOf hplain,
          Layout.goal_keptOf hplain] at hgoal
        exact absurd (Layout.beside_inj.1 hgoal).2 (by decide)
      rw [Layout.source_eq he] at hsource ho
      rw [Layout.hashPath_eq he] at hdigest
      rw [Layout.transcriptPath_eq he] at htranscript
      refine .run hstatus hnot hsource ho fun k => ?_
      cases k with
      | digest => exact hdigest
      | transcript => exact htranscript

/-- **A call that succeeds** leaves the kept files up to date. -/
theorem Ensured.current (h : ensureFresh b.runner e source s = (.ok x, mid))
    (hs : s.files.read e.source = .ok source) :
    Current b.layout e.id source x.text mid.files := by
  have hsource := source_of_call ha he hl hf h hs
  rw [Layout.source_eq he] at hsource
  exact (Ensured.answered ha he hl hf h hs).current hsource

end calls

/-! ## Making a page -/

/-- Render the page of an example for its transcript, and write it. -/
def Builder.publish (b : Builder) (theme : Highlight.Theme) (e : Entry) (source : List UInt8)
    (x : Transcript) : Building (Example × Status) := do
  let shown := Example.ofEntry e
    (Source.Example.read (Utf8.decodeLossy source) b.config.headerLines) x.digest
  let html ← b.renderPage theme shown x.text
  let path := b.outputPath (e.id ++ ".html")
  Building.write path (Utf8.encode html)
  Building.report (.wrotePage path)
  return (shown, x.status)

/-- **How a page is made**: the source is read, the transcript is called for, and the page is
published. -/
theorem buildExample_eq (b : Builder) (theme : Highlight.Theme) (e : Entry) :
    b.buildExample theme e = Building.read e.source >>= fun source =>
      ensureFresh b.runner e source >>= fun x => b.publish theme e source x := rfl

/-- **Publishing a page**: it cannot be rendered; it cannot be written; or it is written. Templates
may have been loaded in any case. -/
theorem publish_run (b : Builder) (theme : Highlight.Theme) (e : Entry) (source : List UInt8)
    (x : Transcript) (s : Session) : ∃ names,
    b.publish theme e source x s =
      let shown := Example.ofEntry e
        (Source.Example.read (Utf8.decodeLossy source) b.config.headerLines) x.digest
      match b.pageOf theme shown x.text (b.sourceAt s) with
      | .error err => (.error err, s.loading b names)
      | .ok html =>
        match s.files.write (b.outputPath (e.id ++ ".html")) (Utf8.encode html) with
        | .error err => (.error (.io (b.outputPath (e.id ++ ".html")) err), s.loading b names)
        | .ok t => (.ok (shown, x.status),
            ({ s.loading b names with files := t } : Session).reporting
              (.wrotePage (b.outputPath (e.id ++ ".html")))) := by
  generalize hshown : Example.ofEntry e
    (Source.Example.read (Utf8.decodeLossy source) b.config.headerLines) x.digest = shown
  obtain ⟨names, hrender⟩ := renderPage_run b theme shown x.text s
  refine ⟨names, ?_⟩
  unfold Builder.publish
  rw [hshown]
  simp only
  cases hpage : b.pageOf theme shown x.text (b.sourceAt s) with
  | error err =>
    rw [hpage] at hrender
    rw [bind_error hrender]
  | ok html =>
    rw [hpage] at hrender
    rw [bind_ok hrender]
    simp only
    cases hw : s.files.write (b.outputPath (e.id ++ ".html")) (Utf8.encode html) with
    | error err => rw [bind_error (write_error (s := s.loading b names) hw)]
    | ok t =>
      rw [bind_ok (write_ok (s := s.loading b names) hw), bind_ok (report_run _ _)]
      rfl

/-- Publishing changes the page and runs nothing, and it changes no file if it fails. -/
theorem publish_frame (b : Builder) (theme : Highlight.Theme) (e : Entry) (source : List UInt8)
    (x : Transcript) (s : Session) : (b.publish theme e source x s).2.runs = s.runs ∧
      (s.files.Linkless → Rewrites {b.outputPath (e.id ++ ".html")} s.files
        (b.publish theme e source x s).2.files) ∧
      ∀ err, (b.publish theme e source x s).1 = .error err →
        (b.publish theme e source x s).2.files = s.files := by
  obtain ⟨names, hrun⟩ := publish_run b theme e source x s
  rw [hrun]
  simp only
  split
  · exact ⟨rfl, fun _ => Rewrites.refl _ _, fun _ _ => rfl⟩
  · split
    · exact ⟨rfl, fun _ => Rewrites.refl _ _, fun _ _ => rfl⟩
    · next hw => exact ⟨rfl, fun hl => rewrites_write hl hw, fun err herr => by cases herr⟩

/-! ## Pages that stand -/

/-- **A page stands**: it is there as it was rendered, and its kept files are up to date. -/
structure Standing (b : Builder) (p : MadePage) (t : Tree) : Prop where
  current : Current b.layout p.entry.id p.source p.transcript.text t
  page : t.read (b.outputPath p.name) = .ok (Utf8.encode p.html)

/-- **A page that stands does so** while other files are changed. -/
theorem Standing.rewrites (h : Standing b p t) (ha : Placed b ids t.workDir)
    (hid : p.entry.id ∈ ids) (hl : t.Linkless) (hr : Rewrites P t t')
    (hP : Avoids t.workDir P (b.placesOf t.workDir p.entry.id)) : Standing b p t' := by
  refine ⟨h.current.rewrites ha hid hl hr (hP.mono Builder.besides_subset),
    hP.read_of_ok hr hl ?_ h.page⟩
  exact .inl (goal_outputPath (plainName_page (ha.plain _ hid)))

namespace MadePage

/-- What is written when the page is made: the page, and the kept files unless they were a hit. -/
def written (b : Builder) (p : MadePage) : Set Path :=
  {q | q = b.outputPath p.name ∨ p.transcript.status ≠ .hit ∧ q ∈ Set.range p.entry.kept}

theorem written_subset (he : p.entry ∈ entriesOf b.layout ids) :
    p.written b ⊆ b.made p.entry.id := by
  rw [← made_eq he]
  rintro q (rfl | ⟨-, hq⟩)
  · exact Set.mem_insert _ _
  · exact .inr hq

end MadePage

section pages

variable (hf : ∀ t p, (b.runner.run t p).files = t)

include hf

/-- **What is changed when a page is made.** -/
theorem Makes.rewrites (hm : Makes b theme p s mid s') (hl : s.files.Linkless) :
    Rewrites (p.written b) s.files s'.files := by
  have hcall := touches_ensureFresh hf p.entry p.source s hl
  rw [hm.answered] at hcall
  have hpage := rewrites_write (hcall.linkless hl) hm.written
  refine Rewrites.trans ?_ (hpage.mono fun q hq => .inl hq)
  -- a hit changes nothing
  by_cases hhit : p.transcript.status = .hit
  · have hsame : mid.files = s.files := (ensured hm.answered).hit_files hhit
    rw [hsame]
    exact Rewrites.refl _ _
  · exact hcall.mono fun q hq => .inr ⟨hhit, hq⟩

theorem MakesAll.rewrites (hm : MakesAll b theme s pages s') (hl : s.files.Linkless) :
    Rewrites {q | ∃ p ∈ pages, q ∈ p.written b} s.files s'.files := by
  induction hm with
  | nil => exact Rewrites.refl _ _
  | @cons p rest s mid s₁ s' hpage _ ih =>
    have hfirst := hpage.rewrites hf hl
    refine (hfirst.mono ?_).trans ((ih (hfirst.linkless hl)).mono ?_)
    · intro q hq
      exact ⟨p, List.mem_cons_self, hq⟩
    · rintro q ⟨r, hr, hq⟩
      exact ⟨r, List.mem_cons_of_mem _ hr, hq⟩

/-- **A page that has been made stands.** -/
theorem Makes.standing (hm : Makes b theme p s mid s') (ha : Placed b ids s.files.workDir)
    (he : p.entry ∈ entriesOf b.layout ids) (hl : s.files.Linkless) : Standing b p s'.files := by
  have hcall := touches_ensureFresh hf p.entry p.source s hl
  rw [hm.answered] at hcall
  have hl' : mid.files.Linkless := hcall.linkless hl
  have hcurrent := Ensured.current ha he hl hf hm.answered hm.read
  rw [← hcall.workDir] at ha
  refine ⟨?_, read_of_write hl' hm.written⟩
  exact hcurrent.rewrites ha (Layout.id_mem he) hl' (rewrites_write hl' hm.written)
    (avoids_output ha (plainName_page (ha.plain _ (Layout.id_mem he))))

omit hf in
/-- What is made for the pages of other ids is elsewhere. -/
theorem avoids_others {w : Location} (ha : Placed b ids w)
    (he : ∀ p ∈ pages, p.entry ∈ entriesOf b.layout ids) :
    Avoids w {q | ∃ p ∈ pages, p.entry.id ≠ id ∧ q ∈ p.written b} (b.placesOf w id) := by
  rintro q ⟨p, hp, hne, hq⟩
  exact avoids_made ha (ha.plain _ (Layout.id_mem (he p hp))) hne q
    (MadePage.written_subset (he p hp) hq)

/-- **Pages that have been made stand**, if they are those of different ids. -/
theorem MakesAll.standing (hm : MakesAll b theme s pages s') (ha : Placed b ids s.files.workDir)
    (he : ∀ p ∈ pages, p.entry ∈ entriesOf b.layout ids)
    (hn : (pages.map (·.entry.id)).Nodup) (hl : s.files.Linkless) :
    ∀ p ∈ pages, Standing b p s'.files := by
  induction hm with
  | nil => exact fun p hp => absurd hp List.not_mem_nil
  | @cons p rest s mid s₁ s' hpage hrest ih =>
    obtain ⟨hnot, hn⟩ := List.nodup_cons.1 hn
    have hmem := he p List.mem_cons_self
    have hlater : ∀ q ∈ rest, q.entry ∈ entriesOf b.layout ids :=
      fun q hq => he q (List.mem_cons_of_mem _ hq)
    have hfirst := hpage.rewrites hf hl
    have ha₁ : Placed b ids s₁.files.workDir := hfirst.workDir ▸ ha
    have hl₁ := hfirst.linkless hl
    intro q hq
    rcases List.mem_cons.1 hq with rfl | hq
    · -- the pages after this one are those of other ids
      refine (hpage.standing hf ha hmem hl).rewrites ha₁ (Layout.id_mem hmem) hl₁
        (hrest.rewrites hf hl₁) ((avoids_others ha₁ hlater).sub ?_)
      rintro f ⟨r, hr, hf⟩
      exact ⟨r, hr, fun hid => hnot (List.mem_map.2 ⟨r, hr, hid⟩), hf⟩
    · exact ih ha₁ hlater hn hl₁ q hq

end pages

/-! ## A small site -/

/-- The way to the output directory does not go into the examples if it is short enough. -/
theorem arranged_of_short (hn : ids.Nodup) (hp : ∀ id ∈ ids, Path.PlainName id.toList)
    (hx : '/' ∉ b.config.extension.toList) (hk : ∀ k : Kept, b.config.extension ≠ k.suffix)
    (hshort : ∀ l ∈ b.config.output.way w, l.length ≤ (b.layout.root w).length)
    (hne : b.config.output.goal w ≠ b.layout.root w)
    (hm : ∀ m ∈ b.layout.manifest, ¬ b.config.output.goal w <:+ m.goal w) : Arranged b ids w := by
  refine ⟨hn, hp, hx, hk, fun l hl hin => ?_, hne, hm⟩
  exact absurd hin.length_lt (Nat.not_lt.2 (hshort l hl))

/-- A site of two examples. -/
def twoPages : Tree :=
  pageAndIndex "a" [(locationOf ["examples", "b"], .directory),
    (locationOf ["examples", "b", "b.js"], .file [49])]

theorem arranged_twoPages : Arranged oneExample ["a", "b"] twoPages.workDir :=
  arranged_of_short (by decide) (by decide) (by decide) (fun k => by cases k <;> decide)
    (by decide) (by decide) (by decide)

end LiterateSite.Site
