import LiterateSite.Proofs.Site.Lockstep
import LiterateSite.Proofs.Site.Serve

/-!
# Trees that differ in kept files

* `keptPlaces`: the places of the kept files of some ids.
* `Twins`: **coherent trees that differ in the kept files of some ids at most.**
* `Twins.templates_eq`: templates are the same in both.
* `lockstep_createOutput`, `lockstep_writeOutput`: what a build writes outside the examples.
* `lockstep_ensureFresh`: **after a call for the transcript of an id, its kept files are the same in
  both**, however the call has come by it.
-/

namespace LiterateSite.Site

open Files Files.Tree Text

/-- The places of the kept files of some ids. -/
def keptPlaces (layout : Layout) (w : Location) (ids : List String) : Set Location :=
  {l | ∃ id ∈ ids, ∃ k : Kept, l = layout.beside w id k.suffix}

/-- No example is in the directory of the templates, where a template could show its kept files. -/
def TemplatesApart (b : Builder) (ids : List String) (w : Location) : Prop :=
  ∀ d, b.templates.directory = some d → ∀ id ∈ ids, ¬ d.goal w <:+ b.layout.home w id

/-- **Coherent trees that differ in the kept files of the ids `rest` at most.** There is a file at
the end of each path of `held`. -/
structure Twins (b : Builder) (ids : List String)
    (f : String → List UInt8 → Except RunError (List UInt8)) (S : String → Set (List UInt8))
    (w : Location) (rest : List String) (held : Set Path) (t u : Tree) : Prop where
  left : Coherent b ids f S w t
  right : Coherent b ids f S w u
  shape : SameShape t u
  agree : AgreeOff (keptPlaces b.layout w rest) t u
  held : ∀ p ∈ held, ∃ content, t.content? p = some content

variable {b : Builder} {ids rest : List String}
  {f : String → List UInt8 → Except RunError (List UInt8)} {S : String → Set (List UInt8)}
  {w l : Location} {layout : Layout} {held : Set Path} {t t' u u' : Tree} {id : String}
  {source output : List UInt8}

theorem inside_of_kept (hl : l ∈ keptPlaces layout w rest) : layout.Inside w l := by
  obtain ⟨id, -, k, rfl⟩ := hl
  exact Layout.inside_beside

/-! ## What is the same in both -/

theorem sourceIn_congr {d : Path} (hw : t.workDir = u.workDir)
    (h : ∀ l, l ∈ d.way t.workDir ∨ d.goal t.workDir <:+ l → t.get? l = u.get? l)
    (hno : ∀ l, l ∈ d.way t.workDir ∨ d.goal t.workDir <:+ l → t.NoLink l) :
    sourceIn t d = sourceIn u d := by
  funext name
  unfold sourceIn
  by_cases hn : isTemplateName name = true
  · rw [if_pos hn, if_pos hn]
    have hparts : ∀ part ∈ Path.split name, part = [] ∨ Path.PlainName part := by
      intro part hp
      have hall := List.all_eq_true.1 hn part hp
      rw [Bool.and_eq_true, bne_iff_ne] at hall
      by_cases he : part = []
      · exact .inl he
      · refine .inr ⟨he, Path.split_no_slash name part hp, ?_, ?_⟩
        · rintro rfl; exact hall.1 rfl
        · rintro rfl; exact hall.1 rfl
    rw [readText_congr hw (fun l hl => h l (Path.way_below hparts d hl))
      fun l hl => hno l (Path.way_below hparts d hl)]
  · rw [if_neg hn, if_neg hn]

/-- **Where templates come from** is all that they depend on. -/
theorem templates_congr {ts : Templates}
    (h : ∀ d, ts.directory = some d → sourceIn t d = sourceIn u d) :
    ts.source t = ts.source u := by
  funext name
  unfold Templates.source
  cases ts.known? name with
  | some source => rfl
  | none =>
    cases hdir : ts.directory with
    | none => rfl
    | some d => exact congrFun (h d hdir) name

namespace Twins

variable (h : Twins b ids f S w rest held t u)

include h

theorem workDir : t.workDir = w := h.left.workDir

/-- **Templates are the same** in trees that differ in kept files, whatever has been loaded. -/
theorem templates_eq (hd : TemplatesApart b ids w) (hsub : ∀ id ∈ rest, id ∈ ids)
    {ts : Templates} (hts : ts.directory = b.templates.directory) : ts.source t = ts.source u := by
  refine templates_congr fun d hdir => ?_
  rw [hts] at hdir
  have hno := fun l hl => h.left.noLink_templates hdir l hl
  refine sourceIn_congr h.agree.workDir (fun l hl => ?_) (by rw [h.workDir]; exact hno)
  rw [h.workDir] at hl
  -- the directory and the way to it are there in both trees
  have hway : ∀ l ∈ d.way w, t.get? l = u.get? l := fun l hl =>
    (h.left.templates_way hdir l hl).trans (h.right.templates_way hdir l hl).symm
  rcases hl with hl | hl
  · exact hway l hl
  · by_cases hk : l ∈ keptPlaces b.layout w rest
    · obtain ⟨id, hid, k, rfl⟩ := hk
      rcases List.suffix_cons_iff.1 hl with he | hs
      · have hgoal : d.goal w = b.layout.beside w id k.suffix := he
        exact hway _ (hgoal ▸ Path.goal_mem_way w d)
      · exact absurd hs (hd d hdir id (hsub id hid))
    · exact h.agree.places l hk

/-- Sources are the same in trees that differ in kept files. -/
theorem read_source (ha : Arranged b ids w) (hid : id ∈ ids) :
    t.read (b.layout.sourceOf id) = u.read (b.layout.sourceOf id) := by
  refine read_congr h.agree.workDir (fun l hl => ?_) (h.left.noLink_source ha hid)
  rw [h.workDir, Layout.way_sourceOf (ha.plain id hid) ha.extension] at hl
  rcases hl with hl | rfl | rfl
  · exact (h.left.examples_way.2 l hl).trans (h.right.examples_way.2 l hl).symm
  · refine h.agree.places _ ?_
    rintro ⟨id', -, k, he⟩
    exact Layout.beside_ne_home he.symm
  · refine h.agree.places _ ?_
    rintro ⟨id', -, k, he⟩
    exact ha.not_kept k (Layout.beside_inj.1 he).2

/-! ## Changes -/

/-- **Quiet changes that are alike** keep trees that differ in kept files so. -/
theorem quiet (ha : Arranged b ids w) (hq : Quiet b w t t') (hq' : Quiet b w u u')
    (hag : AgreeOff (keptPlaces b.layout w rest) t' u') {held' : Set Path}
    (hheld : ∀ p ∈ held', ∃ content, t'.content? p = some content) :
    Twins b ids f S w rest held' t' u' := by
  refine ⟨h.left.quiet ha hq, h.right.quiet ha hq', ⟨hag.workDir, fun l => ?_⟩, hag, hheld⟩
  -- kept files lie inside the examples, where nothing has changed
  by_cases hl : l ∈ keptPlaces b.layout w rest
  · have hshape := h.shape.shape l
    unfold shapeAt at hshape ⊢
    rwa [hq.inside l (inside_of_kept hl), hq'.inside l (inside_of_kept hl)]
  · unfold shapeAt
    rw [hag.places l hl]

end Twins

/-! ## What is written outside the examples -/

theorem outputPath_way {name : String} (hn : Path.PlainName name.toList) :
    l ∈ (b.outputPath name).way w ↔
      l ∈ b.config.output.way w ∨ l = .text name.toList :: b.config.output.goal w :=
  Path.way_join_plain hn

theorem Coherent.noLink_outputPath (h : Coherent b ids f S w t) {name : String}
    (hn : Path.PlainName name.toList) :
    ∀ l ∈ (b.outputPath name).way t.workDir, t.NoLink l := by
  intro l hl
  rw [outputPath_way hn] at hl
  rcases hl with hl | rfl
  · exact h.noLink_output l hl
  · rw [h.workDir]
    exact h.noLink_in_output

section output

variable (ha : Arranged b ids w)

include ha

/-- The places on the way to the output hold no kept files. -/
theorem Arranged.output_not_kept (hl : l ∈ b.config.output.way w) :
    l ∉ keptPlaces b.layout w rest := fun hk => ha.output_way l hl (inside_of_kept hk)

/-- **Creating the output directory.** -/
theorem lockstep_createOutput : Lockstep (Coherent b ids f S w) (Twins b ids f S w rest ∅)
    (Building.createDirAll b.config.output) (Building.createDirAll b.config.output)
      fun _ _ => Twins b ids f S w rest ∅ := by
  intro s u h hl
  -- an attempt that fails leaves directories behind, too, so both ends are looked at as changes
  have hquiet : ∀ {t}, Coherent b ids f S w t →
      Quiet b w t (t.createDirAll b.config.output).1 := by
    intro t ht
    have hgrows := createDirAll_grows ht.noLink_output
    rw [ht.workDir] at hgrows
    exact ht.quiet_grows ha hgrows
  obtain ⟨hr, hag⟩ := createDirAll_agree h.agree
    (fun k hk => ha.output_not_kept (h.workDir ▸ hk)) h.left.noLink_output
  have hnext : Twins b ids f S w rest ∅ _ _ :=
    h.quiet ha (hquiet h.left) (hquiet h.right) hag fun p hp => absurd hp (Set.notMem_empty p)
  cases ht : s.files.createDirAll b.config.output with
  | mk t r =>
    cases hu : u.files.createDirAll b.config.output with
    | mk t' r' =>
      rw [ht, hu] at hr hnext
      simp only at hr hnext
      subst hr
      cases r with
      | ok a =>
        rw [Building.createDirAll_ok ht, Building.createDirAll_ok hu]
        exact .done hnext hl
      | error e =>
        rw [Building.createDirAll_error ht, Building.createDirAll_error hu]
        exact .failed hnext.left hnext.right

variable {name : String} (hn : Path.PlainName name.toList)

include hn

/-- A file of the output that has been written. -/
theorem Coherent.output_written (h : Coherent b ids f S w t) {content : List UInt8}
    (hw : t.write (b.outputPath name) content = .ok t') :
    Quiet b w t t' ∧ t.Sets (b.outputPath name) (some content) t' := by
  obtain ⟨hp, hl, rfl⟩ := write_goal (h.noLink_outputPath hn) hw
  have hgoal : (b.outputPath name).goal t.workDir =
      .text name.toList :: b.config.output.goal w := by
    rw [h.workDir]
    exact Path.goal_join_plain hn
  refine ⟨?_, sets_insert hp hl content⟩
  have hs := hp.shapeAt_place hl
  rw [hgoal] at hs ⊢
  exact ha.quiet_insert hs

/-- **Writing a file of the output.** -/
theorem lockstep_writeOutput (content : List UInt8) : Lockstep (Coherent b ids f S w)
    (Twins b ids f S w rest held) (Building.write (b.outputPath name) content)
      (Building.write (b.outputPath name) content)
      fun _ _ => Twins b ids f S w rest (insert (b.outputPath name) held) := by
  intro s u h hloaded
  have hx : ∀ k ∈ (b.outputPath name).way s.files.workDir,
      k ∉ keptPlaces b.layout w rest := by
    intro k hk hkept
    rw [h.workDir, outputPath_way hn] at hk
    rcases hk with hk | rfl
    · exact ha.output_not_kept hk hkept
    · exact ha.output_not_inside _ (inside_of_kept hkept)
  rcases write_agree h.agree hx (h.left.noLink_outputPath hn) content with
    ⟨e, ht, hu⟩ | ⟨t', u', ht, hu, hag⟩
  · rw [Building.write_error ht, Building.write_error hu]
    exact .failed h.left h.right
  · obtain ⟨hq, hs⟩ := h.left.output_written ha hn ht
    obtain ⟨hq', -⟩ := h.right.output_written ha hn hu
    rw [Building.write_ok ht, Building.write_ok hu]
    refine .done (h.quiet ha hq hq' hag fun p hp => ?_) hloaded
    rcases hp with rfl | hp
    · exact ⟨content, hs.here⟩
    · exact hs.content?_of_some (h.held p hp)

end output

/-! ## Calls for transcripts -/

/-- The content of a kept file after a run. -/
def Kept.content (id : String) (source output : List UInt8) : Kept → List UInt8
  | .digest => Utf8.ofString (sourceDigest id source)
  | .transcript => Utf8.encode (transcriptText id output)

theorem Sealed.content (h : Sealed layout id source output t) (k : Kept) :
    t.content? (layout.keptOf id k) = some (k.content id source output) := by
  cases k with
  | digest => exact h.digest
  | transcript => exact h.transcript

section calls

variable (ha : Arranged b ids w) (hid : id ∈ ids)

include ha hid

/-- Where the kept files of a run are. -/
theorem Coherent.sealed_place (h : Coherent b ids f S w t)
    (hs : Sealed b.layout id source output t) (k : Kept) :
    t.get? (b.layout.beside w id k.suffix) = some (.file (k.content id source output)) := by
  obtain ⟨l, hl, hf⟩ := content?_eq_some.1 (hs.content k)
  rw [← h.place?_kept ha hid hl]
  exact hf

/-- A file that is there stays there when kept files are renewed. -/
theorem Renewed.content?_of_some (hr : Renewed b.layout w id t t') (h : Coherent b ids f S w t')
    (hs : Sealed b.layout id source output t') {p : Path}
    (hp : ∃ content, t.content? p = some content) : ∃ content, t'.content? p = some content := by
  obtain ⟨content, hc⟩ := hp
  obtain ⟨l, hl, hf⟩ := content?_eq_some.1 hc
  have hl' : t'.place? p = some l := hr.shape.place?_eq p _ ▸ hl
  by_cases hk : ∃ k : Kept, l = b.layout.beside w id k.suffix
  · -- the file is a kept one, which has been written again
    obtain ⟨k, rfl⟩ := hk
    exact ⟨k.content id source output,
      content?_eq_some.2 ⟨_, hl', h.sealed_place ha hid hs k⟩⟩
  · have hsame : t'.get? l = t.get? l := hr.places l fun k he => hk ⟨k, he⟩
    exact ⟨content, content?_eq_some.2 ⟨l, hl', hsame.trans hf⟩⟩

/-- **Kept files of one and the same run** make the trees more alike. -/
theorem Twins.renewed (h : Twins b ids f S w (id :: rest) held t u)
    (ht : Coherent b ids f S w t') (hu : Coherent b ids f S w u')
    (hr : Renewed b.layout w id t t') (hr' : Renewed b.layout w id u u')
    (hs : Sealed b.layout id source output t') (hs' : Sealed b.layout id source output u') :
    Twins b ids f S w rest (held ∪ Set.range (b.layout.keptOf id)) t' u' := by
  refine ⟨ht, hu, (hr.shape.symm.trans h.shape).trans hr'.shape,
    ⟨ht.workDir.trans hu.workDir.symm, fun l hl => ?_⟩, fun p hp => ?_⟩
  · by_cases hk : ∃ k : Kept, l = b.layout.beside w id k.suffix
    · obtain ⟨k, rfl⟩ := hk
      exact (ht.sealed_place ha hid hs k).trans (hu.sealed_place ha hid hs' k).symm
    · have hout : ∀ k : Kept, l ≠ b.layout.beside w id k.suffix := fun k he => hk ⟨k, he⟩
      rw [hr.places l hout, hr'.places l hout]
      refine h.agree.places l ?_
      rintro ⟨id', hid', k, he⟩
      rcases List.mem_cons.1 hid' with rfl | hid'
      · exact hout k he
      · exact hl ⟨id', hid', k, he⟩
  · rcases hp with hp | ⟨k, rfl⟩
    · exact hr.content?_of_some ha hid ht hs (h.held p hp)
    · exact ⟨_, hs.content k⟩

end calls

/-- **Calls for the transcript of one source** end alike, whatever has been kept. -/
theorem lockstep_ensureFresh {e : Entry} (ha : Arranged b ids w)
    (hc : b.runner.Computes b.layout ids f)
    (hinj : ∀ id ∈ ids, Set.InjOn (sourceDigest id) (S id)) (he : e ∈ entriesOf b.layout ids) :
    Lockstep (Coherent b ids f S w)
      (fun t u => t.read e.source = .ok source ∧ Twins b ids f S w (e.id :: rest) held t u)
      (ensureFresh b.runner e source) (ensureFresh b.runner e source) fun x y t u =>
        (x.text = y.text ∧ x.digest = y.digest) ∧
          Twins b ids f S w rest (held ∪ Set.range (b.layout.keptOf e.id)) t u := by
  rintro s u ⟨hs, h⟩ hloaded
  have hid := Layout.id_mem he
  rw [Layout.source_eq he] at hs
  have hu : u.files.read (b.layout.sourceOf e.id) = .ok source := by
    rw [← h.read_source ha hid]
    exact hs
  obtain ⟨r, s', hrun, hens⟩ := ensureFresh_cases b.runner e source s
  obtain ⟨r', u', hrun', hens'⟩ := ensureFresh_cases b.runner e source u
  obtain ⟨hserved, hdigest⟩ := hens.served h.left ha hc hinj he hs
  obtain ⟨hserved', hdigest'⟩ := hens'.served h.right ha hc hinj he hu
  rw [hrun, hrun']
  -- whether a call succeeds depends on the source and on the shape of the tree only
  cases r with
  | error err =>
    cases r' with
    | error err' => exact .failed hserved.coherent hserved'.coherent
    | ok y =>
      obtain ⟨hk, output, ho, -, -⟩ := hserved'.of_some y.text rfl
      obtain ⟨err, hf⟩ := hserved.of_none rfl (hk.sameShape h.shape.symm)
      rw [ho] at hf
      cases hf
  | ok x =>
    obtain ⟨hk, output, ho, hx, hseal⟩ := hserved.of_some x.text rfl
    cases r' with
    | error err' =>
      obtain ⟨err, hf⟩ := hserved'.of_none rfl (hk.sameShape h.shape)
      rw [ho] at hf
      cases hf
    | ok y =>
      obtain ⟨-, output', ho', hy, hseal'⟩ := hserved'.of_some y.text rfl
      have hsame : output = output' := Except.ok.inj (ho.symm.trans ho')
      subst hsame
      refine .done ⟨⟨hx.trans hy.symm, (hdigest x rfl).trans (hdigest' y rfl).symm⟩, ?_⟩
        (hens.loaded.trans (hloaded.trans hens'.loaded.symm))
      exact h.renewed ha hid hserved.coherent hserved'.coherent hserved.renewed hserved'.renewed
        hseal hseal'

end LiterateSite.Site
