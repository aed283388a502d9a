import LiterateSite.Proofs.Site.Course

/-!
# Builds in another order

Two builds of a site begin with the same files, but for the content of the manifest, which lists the
same ids in another order.

* `Runner.Steady`: a runner that gives what the path and the content of a source determine.
* `Answered.alike`: **calls are answered alike** if the kept files are the same before.
* `UpToDate`: files that are up to date, by their places.
* `Reordering`, `Reordered`: **two manifests that list the same ids**; the second one says that the
  manifest is neither a source nor a kept file that counts.
* `Reordered.same_page`: **what is made of an id is the same in both builds.**
* `Reordered.perm_map`: what is told of the pages of both builds.
-/

namespace LiterateSite.Site

open Files Files.Tree Text Building

variable {b : Builder} {m : Path} {theme theme₁ theme₂ : Highlight.Theme}
  {ids ids₁ ids₂ : List String} {id : String} {layout : Layout}
  {s s' s₁ s₂ s₁' s₂' start start₁ start₂ last last₁ last₂ : Session}
  {r r₁ r₂ : BuildResult} {pages pages₁ pages₂ : List MadePage} {html html₁ html₂ : List Char}
  {t t₁ t₂ t₁' t₂' u : Tree} {source : List UInt8} {text : List Char} {x₁ x₂ : Transcript}

/-! ## Calls that are answered alike -/

/-- **What the runner gives depends on the path and the content of a source only**, and it leaves
the files as they are. -/
structure Runner.Steady (runner : Runner) : Prop where
  files : ∀ t p, (runner.run t p).files = t
  result : ∀ {t u p content}, t.read p = .ok content → u.read p = .ok content →
    (runner.run t p).result = (runner.run u p).result

/-- **Answers are alike** if the kept files are the same before, at least if they are up to date in
one of the trees. -/
theorem Answered.alike (hr : b.runner.Steady) (h₁ : Answered b id source t₁ x₁ t₁')
    (h₂ : Answered b id source t₂ x₂ t₂') (hs₁ : t₁.read (b.layout.sourceOf id) = .ok source)
    (hs₂ : t₂.read (b.layout.sourceOf id) = .ok source)
    (hsame : ∀ text, Current b.layout id source text t₁ ∨ Current b.layout id source text t₂ →
      ∀ k, t₂.read (b.layout.keptOf id k) = t₁.read (b.layout.keptOf id k)) :
    (x₁.text = x₂.text ∧ x₁.digest = x₂.digest ∧ x₁.status.executed = x₂.status.executed) ∧
      ∀ k, ∃ content, t₁'.read (b.layout.keptOf id k) = .ok content ∧
        t₂'.read (b.layout.keptOf id k) = .ok content := by
  cases h₁ with
  | kept hc₁ hstay₁ =>
    have hkept := hsame _ (.inl hc₁)
    cases h₂ with
    | kept hc₂ hstay₂ =>
      refine ⟨⟨?_, rfl, rfl⟩, fun k => ?_⟩
      · obtain ⟨bytes₁, hbytes₁, rfl⟩ := hc₁.transcript
        obtain ⟨bytes₂, hbytes₂, rfl⟩ := hc₂.transcript
        rw [hkept, hbytes₁] at hbytes₂
        rw [Except.ok.inj hbytes₂]
      · obtain ⟨content, hread⟩ := hc₁.kept_there k
        exact ⟨content, (hstay₁ k).trans hread, (hstay₂ k).trans ((hkept k).trans hread)⟩
    | run _ hnot _ _ _ =>
      exact absurd (hc₁.mono hs₂ fun k _ hread => (hkept k).trans hread) (hnot _)
  | run hstatus₁ hnot hu₁ ho₁ hkept₁ =>
    cases h₂ with
    | kept hc₂ _ =>
      have hkept := hsame _ (.inr hc₂)
      exact absurd (hc₂.mono hs₁ fun k _ hread => (hkept k).symm.trans hread) (hnot _)
    | run hstatus₂ _ hu₂ ho₂ hkept₂ =>
      -- both runs read the same source at the same path
      have hsteady := hr.result hu₁ hu₂
      rw [ho₁, ho₂] at hsteady
      cases hsteady
      refine ⟨⟨rfl, rfl, ?_⟩, fun k => ⟨_, hkept₁ k, hkept₂ k⟩⟩
      show Status.executed _ = Status.executed _
      rw [(executed_iff _).2 hstatus₁, (executed_iff _).2 hstatus₂]

/-! ## Files by their places -/

/-- **The files of an id are up to date**, as they lie beside each other: there are a source, its
digest, and a transcript. -/
def UpToDate (layout : Layout) (t : Tree) (id : String) : Prop :=
  ∃ source known bytes,
    t.fileAt? (layout.beside t.workDir id layout.extension) = some source ∧
    t.fileAt? (layout.beside t.workDir id Kept.digest.suffix) = some known ∧
    trim (Utf8.decodeLossy known) = (sourceDigest id source).toList ∧
    t.fileAt? (layout.beside t.workDir id Kept.transcript.suffix) = some bytes

/-- What can be read at a path is the file at its goal. -/
theorem fileAt?_of_read {q : Path} {content : List UInt8} (hl : t.Linkless)
    (h : t.read q = .ok content) : t.fileAt? (q.goal t.workDir) = some content :=
  fileAt?_eq_some.2 (way_of_read (fun k _ => hl k) h).1

/-- **Files that are up to date before a call** have been so before the build. -/
theorem UpToDate.of_created (output : Path) (h : UpToDate layout u id) (hl : t.Linkless)
    (hw : u.workDir = t.workDir) (hget : ∀ ext, u.get? (layout.beside t.workDir id ext) =
      (t.createDirAll output).1.get? (layout.beside t.workDir id ext)) : UpToDate layout t id := by
  have hfiles : ∀ ext, u.fileAt? (layout.beside u.workDir id ext) =
      t.fileAt? (layout.beside t.workDir id ext) := by
    intro ext
    rw [hw, ← (createDirAll_grows (p := output) fun k _ => hl k).fileAt?_eq]
    unfold fileAt?
    rw [hget ext]
  obtain ⟨source, known, bytes, hsource, hknown, hdigest, hbytes⟩ := h
  rw [hfiles] at hsource hknown hbytes
  exact ⟨source, known, bytes, hsource, hknown, hdigest, hbytes⟩

section places

variable (hp : Path.PlainName id.toList) (hx : '/' ∉ layout.extension.toList) (hl : t.Linkless)

include hp hx hl

theorem Current.upToDate (h : Current layout id source text t) : UpToDate layout t id := by
  obtain ⟨known, hknown, hdigest⟩ := h.digest
  obtain ⟨bytes, hbytes, -⟩ := h.transcript
  have hsource := fileAt?_of_read hl h.read
  have hhash := fileAt?_of_read hl hknown
  have htranscript := fileAt?_of_read hl hbytes
  rw [Layout.goal_sourceOf hp hx] at hsource
  rw [Layout.goal_keptOf hp] at hhash htranscript
  exact ⟨source, known, bytes, hsource, hhash, hdigest, htranscript⟩

/-- The way to a source that can be read leads over directories. -/
theorem directories_of_source {content : List UInt8}
    (h : t.read (layout.sourceOf id) = .ok content) {l : Location}
    (hmem : l ∈ layout.examples.way t.workDir ∨ l = layout.home t.workDir id) :
    t.get? l = some .directory := by
  refine (way_of_child hl (Layout.plainName_dotted hp hx) h).2.1 l ?_
  rw [Path.ofString, Path.way_join_plain hp]
  exact hmem

/-- **Kept files read alike** in two trees in which the source can be read, if the same is at their
places. -/
theorem read_kept_congr (hl' : u.Linkless) (hw : t.workDir = u.workDir)
    {content content' : List UInt8} (h : t.read (layout.sourceOf id) = .ok content)
    (h' : u.read (layout.sourceOf id) = .ok content') (k : Kept)
    (hget : t.get? (layout.beside t.workDir id k.suffix) =
      u.get? (layout.beside t.workDir id k.suffix)) :
    t.read (layout.keptOf id k) = u.read (layout.keptOf id k) := by
  refine read_congr hw (fun l hway => ?_) fun l _ => hl l
  rcases (Layout.way_keptOf hp k).1 hway with hroot | hhome | rfl
  · rw [directories_of_source hp hx hl h (.inl hroot),
      directories_of_source hp hx hl' h' (.inl (hw ▸ hroot))]
  · rw [directories_of_source hp hx hl h (.inr hhome),
      directories_of_source hp hx hl' h' (.inr (hw ▸ hhome))]
  · exact hget

end places

/-! ## Two manifests -/

/-- **Two manifests that list the same ids.** The trees have no links and are the same, but for the
content of the manifest. -/
structure Reordering (b : Builder) (m : Path) (ids₁ ids₂ : List String) (t₁ t₂ : Tree) : Prop where
  manifest : b.layout.manifest = some m
  linkless₁ : t₁.Linkless
  linkless₂ : t₂.Linkless
  agree : AgreeOff {m.goal t₁.workDir} t₁ t₂
  listed₁ : enumeratedIds b.layout t₁ = .ok ids₁
  listed₂ : enumeratedIds b.layout t₂ = .ok ids₂
  perm : ids₁.Perm ids₂
  placed : Placed b ids₁ t₁.workDir
  index_free : "index" ∉ ids₁

/-- **The manifest is no input of an example**: it is not a source, and it is a kept file only of an
example that has to be run anyway. -/
structure Reordered (b : Builder) (m : Path) (ids₁ ids₂ : List String) (t₁ t₂ : Tree) : Prop
    extends Reordering b m ids₁ ids₂ t₁ t₂ where
  no_source : ∀ id ∈ ids₁,
    m.goal t₁.workDir ≠ b.layout.beside t₁.workDir id b.config.extension
  no_current : ∀ id ∈ ids₁, ∀ k : Kept,
    m.goal t₁.workDir = b.layout.beside t₁.workDir id k.suffix →
      ¬ UpToDate b.layout t₁ id ∧ ¬ UpToDate b.layout t₂ id

namespace Reordering

variable (h : Reordering b m ids₁ ids₂ t₁ t₂)

include h

theorem workDir_eq : t₂.workDir = t₁.workDir := h.agree.workDir.symm

theorem placed₂ : Placed b ids₂ t₂.workDir := by
  rw [h.workDir_eq]
  exact ⟨h.perm.nodup_iff.1 h.placed.distinct,
    fun id hid => h.placed.plain id (h.perm.mem_iff.2 hid), h.placed.extension, h.placed.not_kept,
    h.placed.output_not_inside⟩

theorem index_free₂ : "index" ∉ ids₂ := fun hid => h.index_free (h.perm.mem_iff.2 hid)

/-- The manifest is a file. -/
theorem manifest_file : ∃ content, t₁.get? (m.goal t₁.workDir) = some (.file content) := by
  obtain ⟨content, hread⟩ := manifest_read h.listed₁ h.manifest
  exact ⟨content, (way_of_read (fun k _ => h.linkless₁ k) hread).1⟩

end Reordering

/-- The trees still agree when the output directory has been created, if that succeeds. -/
theorem Reordering.created_agree (h : Reordering b m ids₁ ids₂ s₁.files s₂.files)
    (hc : Built b s₁ r₁ s₁' theme₁ (entriesOf b.layout ids₁) pages₁ html₁ start₁ last₁) :
    AgreeOff {m.goal s₁.files.workDir} (s₁.files.createDirAll b.config.output).1
      (s₂.files.createDirAll b.config.output).1 := by
  refine (createDirAll_agree h.agree (fun l hway => ?_) fun l _ => h.linkless₁ l).2
  -- there are directories on the way, and the manifest is a file
  rintro rfl
  obtain ⟨content, hfile⟩ := h.manifest_file
  have hgrows := createDirAll_grows (p := b.config.output) fun k _ => h.linkless₁ k
  have hdirectory := hc.output_directory h.linkless₁ hway
  rw [hgrows.get?_of_some hfile] at hdirectory
  cases hdirectory

/-! ## Pages of the same example -/

/-- **Two pages of one example are alike**: what they are made of is the same, and so are the files
that are kept. -/
structure SamePage (b : Builder) (p₁ p₂ : MadePage) (t₁ t₂ : Tree) : Prop where
  id : p₁.entry.id = p₂.entry.id
  source : p₁.source = p₂.source
  text : p₁.transcript.text = p₂.transcript.text
  digest : p₁.transcript.digest = p₂.transcript.digest
  executed : p₁.transcript.status.executed = p₂.transcript.status.executed
  kept : ∀ k, ∃ content, t₁.read (b.layout.keptOf p₁.entry.id k) = .ok content ∧
    t₂.read (b.layout.keptOf p₁.entry.id k) = .ok content

section courses

variable (h : Reordered b m ids₁ ids₂ s₁.files s₂.files) (hr : b.runner.Steady)
  (hc₁ : Built b s₁ r₁ s₁' theme₁ (entriesOf b.layout ids₁) pages₁ html₁ start₁ last₁)
  (hc₂ : Built b s₂ r₂ s₂' theme₂ (entriesOf b.layout ids₂) pages₂ html₂ start₂ last₂)

include h hr hc₁ hc₂

/-- **What is made of an id is the same in both builds.** -/
theorem Reordered.same_page : ∀ p₁ ∈ pages₁, ∀ p₂ ∈ pages₂, p₁.entry.id = p₂.entry.id →
    SamePage b p₁ p₂ s₁'.files s₂'.files := by
  intro p₁ hp₁ p₂ hp₂ hid
  have hmem := Layout.id_mem (hc₁.entry_mem p₁ hp₁)
  have hplain := h.placed.plain _ hmem
  have hagree := h.created_agree hc₁
  obtain ⟨u₁, hl₁, hw₁, hget₁, hread₁, hanswered₁⟩ :=
    hc₁.answered h.linkless₁ hr.files h.placed p₁ hp₁
  obtain ⟨u₂, hl₂, hw₂, hget₂, hread₂, hanswered₂⟩ :=
    hc₂.answered h.linkless₂ hr.files h.placed₂ p₂ hp₂
  rw [← hid, h.workDir_eq] at hget₂
  rw [h.workDir_eq] at hw₂
  rw [← hid] at hread₂ hanswered₂
  -- the same is beside the source in both trees, where the manifest is not
  have hplaces : ∀ ext, m.goal s₁.files.workDir ≠
      b.layout.beside s₁.files.workDir p₁.entry.id ext →
        u₁.get? (b.layout.beside s₁.files.workDir p₁.entry.id ext) =
          u₂.get? (b.layout.beside s₁.files.workDir p₁.entry.id ext) := fun ext hne =>
    (hget₁ _ ⟨ext, rfl⟩).trans
      ((hagree.places _ fun he => hne he.symm).trans (hget₂ _ ⟨ext, rfl⟩).symm)
  have hsource : p₁.source = p₂.source := by
    have hfile₁ := (way_of_read (fun k _ => hl₁ k) hread₁).1
    have hfile₂ := (way_of_read (fun k _ => hl₂ k) hread₂).1
    rw [Layout.goal_sourceOf hplain h.placed.extension] at hfile₁ hfile₂
    rw [hw₁, hplaces _ (h.no_source _ hmem)] at hfile₁
    rw [hw₂, hfile₁] at hfile₂
    exact Files.Entry.file.inj (Option.some.inj hfile₂)
  rw [← hsource] at hread₂ hanswered₂
  -- what is up to date before a call has been so at first
  have hsame : ∀ text, Current b.layout p₁.entry.id p₁.source text u₁ ∨
      Current b.layout p₁.entry.id p₁.source text u₂ →
        ∀ k, u₂.read (b.layout.keptOf p₁.entry.id k) = u₁.read (b.layout.keptOf p₁.entry.id k) := by
    intro text hcurrent k
    refine (read_kept_congr hplain h.placed.extension hl₁ hl₂ (hw₁.trans hw₂.symm) hread₁ hread₂ k
      (hw₁ ▸ hplaces _ fun hgoal => ?_)).symm
    obtain ⟨hnot₁, hnot₂⟩ := h.no_current _ hmem k hgoal
    rcases hcurrent with hcurrent | hcurrent
    · exact hnot₁ (.of_created b.config.output
        (hcurrent.upToDate hplain h.placed.extension hl₁) h.linkless₁ hw₁
        fun ext => hget₁ _ ⟨ext, rfl⟩)
    · refine hnot₂ (.of_created b.config.output
        (hcurrent.upToDate hplain h.placed.extension hl₂) h.linkless₂
        (hw₂.trans h.workDir_eq.symm) fun ext => ?_)
      rw [h.workDir_eq]
      exact hget₂ _ ⟨ext, rfl⟩
  obtain ⟨⟨htext, hdigest, hexecuted⟩, hkept⟩ :=
    hanswered₁.alike hr hanswered₂ hread₁ hread₂ hsame
  exact ⟨hid, hsource, htext, hdigest, hexecuted, hkept⟩

/-- **What is told of the pages** is the same up to the order, if it is the same for pages that are
made of the same. -/
theorem Reordered.perm_map {α : Type} (f : MadePage → α)
    (hf : ∀ p₁ ∈ pages₁, ∀ p₂ ∈ pages₂, SamePage b p₁ p₂ s₁'.files s₂'.files → f p₁ = f p₂) :
    (pages₁.map f).Perm (pages₂.map f) := by
  -- the ids come along, so that nothing is told twice
  suffices hwith : (pages₁.map fun p => (p.entry.id, f p)).Perm
      (pages₂.map fun p => (p.entry.id, f p)) by
    have hsnd := hwith.map Prod.snd
    rwa [List.map_map, List.map_map] at hsnd
  have hsame := h.same_page hr hc₁ hc₂
  have hnodup : ∀ {pages : List MadePage}, (pages.map (·.entry.id)).Nodup →
      (pages.map fun p => (p.entry.id, f p)).Nodup := by
    intro pages hn
    refine List.Nodup.of_map Prod.fst ?_
    rwa [List.map_map]
  refine (List.perm_ext_iff_of_nodup (hnodup ?_) (hnodup ?_)).2 fun x => ?_
  · rw [hc₁.ids_eq]
    exact h.placed.distinct
  · rw [hc₂.ids_eq]
    exact h.placed₂.distinct
  · rw [List.mem_map, List.mem_map]
    constructor
    · rintro ⟨p₁, hp₁, rfl⟩
      obtain ⟨p₂, hp₂, hid⟩ := hc₂.page_of_id (h.perm.mem_iff.1 (hc₁.id_mem hp₁))
      refine ⟨p₂, hp₂, ?_⟩
      rw [hid, hf p₁ hp₁ p₂ hp₂ (hsame p₁ hp₁ p₂ hp₂ hid.symm)]
    · rintro ⟨p₂, hp₂, rfl⟩
      obtain ⟨p₁, hp₁, hid⟩ := hc₁.page_of_id (h.perm.mem_iff.2 (hc₂.id_mem hp₂))
      refine ⟨p₁, hp₁, ?_⟩
      rw [hid, hf p₁ hp₁ p₂ hp₂ (hsame p₁ hp₁ p₂ hp₂ hid)]

/-- **The same sources have been run**, and the same is told of both builds. -/
theorem Reordered.runs_result : r₁ = r₂ ∧ ∃ ran₁ ran₂, s₁'.runs = s₁.runs ++ ran₁ ∧
    s₂'.runs = s₂.runs ++ ran₂ ∧ ran₁.Perm ran₂ := by
  have hran : (pages₁.map fun p => (p.transcript.status.executed, p.entry.source)).Perm
      (pages₂.map fun p => (p.transcript.status.executed, p.entry.source)) := by
    refine h.perm_map hr hc₁ hc₂ _ fun p₁ hp₁ p₂ hp₂ hsame => ?_
    rw [hsame.executed, Layout.source_eq (hc₁.entry_mem p₁ hp₁),
      Layout.source_eq (hc₂.entry_mem p₂ hp₂), hsame.id]
  refine ⟨?_, _, _, hc₁.runs_eq, hc₂.runs_eq, ?_⟩
  · have hexecuted : (pages₁.countP fun p => p.transcript.status.executed) =
        pages₂.countP fun p => p.transcript.status.executed := by
      have hcount := hran.countP_eq (·.1)
      rwa [List.countP_map, List.countP_map] at hcount
    rw [hc₁.result_eq, hc₂.result_eq, hexecuted, h.perm.length_eq]
  · have hfilter := (hran.filter (·.1)).map Prod.snd
    rw [List.filter_map, List.filter_map, List.map_map, List.map_map] at hfilter
    exact hfilter

/-- **The style sheets** are the same. -/
theorem Reordered.same_sheets : theme₁ = theme₂ ∧ ∀ f ∈ b.sheets, ∃ content,
    s₁'.files.read f = .ok content ∧ s₂'.files.read f = .ok content := by
  obtain rfl : theme₁ = theme₂ :=
    Except.ok.inj (hc₁.theme_found.symm.trans hc₂.theme_found)
  obtain ⟨code, hcode, hsite₁, hcss₁⟩ := hc₁.sheets_there h.linkless₁ hr.files h.placed
  obtain ⟨code', hcode', hsite₂, hcss₂⟩ := hc₂.sheets_there h.linkless₂ hr.files h.placed₂
  obtain rfl := Except.ok.inj (hcode.symm.trans hcode')
  refine ⟨rfl, ?_⟩
  rintro f (rfl | rfl)
  · exact ⟨_, hsite₁, hsite₂⟩
  · exact ⟨_, hcss₁, hcss₂⟩

end courses

end LiterateSite.Site
