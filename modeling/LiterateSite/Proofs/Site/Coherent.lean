import LiterateSite.Proofs.Site.Places
import LiterateSite.Site.Build

/-!
# What holds between builds

* `Arranged`: how the paths of a configuration lie to each other.
* `Matched`: the kept files of an id, if they are both there, belong to one run of one source.
* `Coherent`: **the invariant of builds**: no links, the same ids, and kept files that match.
* `Quiet`, `Coherent.quiet`: changes outside the examples.
* `Beside`, `Coherent.beside`: changes of files beside sources.
* `Coherent.kept`, `Coherent.edited`: a change of a kept file, and one of a source.
-/

namespace LiterateSite.Site

open Files Files.Tree Text

/-- The layout of the examples of a builder. -/
abbrev Builder.layout (b : Builder) : Layout := b.config.toLayout

/-- **How the paths of a configuration lie to each other.** The ids are different plain names, and a
source is none of the kept files. The output directory is not the examples directory, the way to it
does not go into that directory, and the manifest is not in it. -/
structure Arranged (b : Builder) (ids : List String) (w : Location) : Prop where
  distinct : ids.Nodup
  plain : ∀ id ∈ ids, Path.PlainName id.toList
  extension : '/' ∉ b.config.extension.toList
  not_kept : ∀ k : Kept, b.config.extension ≠ k.suffix
  output_way : ∀ l ∈ b.config.output.way w, ¬ b.layout.Inside w l
  output_ne : b.config.output.goal w ≠ b.layout.root w
  manifest_apart : ∀ m, b.layout.manifest = some m → ¬ b.config.output.goal w <:+ m.goal w

/-- The places where no links are wanted: on the ways to the examples, the output, the templates and
the manifest, and in these directories. -/
def zone (b : Builder) (w : Location) : Set Location :=
  {l | l ∈ b.layout.examples.way w ∨ b.layout.root w <:+ l ∨
    l ∈ b.config.output.way w ∨ b.config.output.goal w <:+ l ∨
    (∃ d, b.templates.directory = some d ∧ (l ∈ d.way w ∨ d.goal w <:+ l)) ∨
    ∃ m, b.layout.manifest = some m ∧ l ∈ m.way w}

/-- The kept files of an id, if they are both there, are the digest of a source of `S` and the
transcript of its output by `f`. -/
def Matched (layout : Layout) (f : String → List UInt8 → Except RunError (List UInt8))
    (S : String → Set (List UInt8)) (id : String) (t : Tree) : Prop :=
  ∀ digest text, t.content? (layout.keptOf id .digest) = some digest →
    t.content? (layout.keptOf id .transcript) = some text →
      ∃ source ∈ S id, ∃ output, f id source = .ok output ∧
        digest = Utf8.ofString (sourceDigest id source) ∧
        text = Utf8.encode (transcriptText id output)

/-- **The invariant of builds.** `f` says what the sources put out, and `S` has the sources that
there have been. -/
structure Coherent (b : Builder) (ids : List String)
    (f : String → List UInt8 → Except RunError (List UInt8)) (S : String → Set (List UInt8))
    (w : Location) (t : Tree) : Prop where
  workDir : t.workDir = w
  no_links : ∀ l ∈ zone b w, t.NoLink l
  enumerated : enumeratedIds b.layout t = .ok ids
  templates : ∀ d, b.templates.directory = some d → t.isDir d = true
  plain : ∀ id ∈ ids, ∀ k, t.Plain (b.layout.keptOf id k)
  parted : ∀ m, b.layout.manifest = some m → ∀ id ∈ ids, ∀ k, t.Parted (b.layout.keptOf id k) m
  sources : ∀ id ∈ ids, ∀ source, t.read (b.layout.sourceOf id) = .ok source → source ∈ S id
  matched : ∀ id ∈ ids, Matched b.layout f S id t

variable {b : Builder} {ids : List String}
  {f : String → List UInt8 → Except RunError (List UInt8)} {S : String → Set (List UInt8)}
  {w l : Location} {t t' u : Tree} {id : String}

/-! ## Places without links -/

/-- Paths beside sources lead over places where no links are wanted. -/
theorem beside_zone {ext : String} (hl : l ∈ b.layout.examples.way w ∨ l = b.layout.home w id ∨
    l = b.layout.beside w id ext) : l ∈ zone b w := by
  rcases hl with hl | rfl | rfl
  · exact .inl hl
  · exact .inr (.inl (List.suffix_cons _ _))
  · exact .inr (.inl ((List.suffix_cons _ _).trans (List.suffix_cons _ _)))

theorem Arranged.kept_zone (ha : Arranged b ids w) (hid : id ∈ ids) (k : Kept) :
    ∀ l ∈ (b.layout.keptOf id k).way w, l ∈ zone b w :=
  fun _ hl => beside_zone ((Layout.way_keptOf (ha.plain id hid) k).1 hl)

theorem Arranged.source_zone (ha : Arranged b ids w) (hid : id ∈ ids) :
    ∀ l ∈ (b.layout.sourceOf id).way w, l ∈ zone b w :=
  fun _ hl => beside_zone ((Layout.way_sourceOf (ha.plain id hid) ha.extension).1 hl)

namespace Coherent

variable (h : Coherent b ids f S w t)

include h

theorem noLink_examples : ∀ l ∈ b.layout.examples.way t.workDir, t.NoLink l := by
  intro l hl
  rw [h.workDir] at hl
  exact h.no_links l (.inl hl)

theorem noLink_inside (hl : b.layout.Inside w l) : t.NoLink l := by
  obtain ⟨n, hn⟩ := hl
  exact h.no_links l (.inr (.inl ((List.suffix_cons n _).trans hn)))

theorem noLink_output : ∀ l ∈ b.config.output.way t.workDir, t.NoLink l := by
  intro l hl
  rw [h.workDir] at hl
  exact h.no_links l (.inr (.inr (.inl hl)))

theorem noLink_in_output {n : Name} : t.NoLink (n :: b.config.output.goal w) :=
  h.no_links _ (.inr (.inr (.inr (.inl (List.suffix_cons n _)))))

theorem noLink_templates {d : Path} (hd : b.templates.directory = some d) :
    ∀ l, l ∈ d.way w ∨ d.goal w <:+ l → t.NoLink l :=
  fun l hl => h.no_links l (.inr (.inr (.inr (.inr (.inl ⟨d, hd, hl⟩)))))

theorem noLink_manifest {m : Path} (hm : b.layout.manifest = some m) :
    ∀ l ∈ m.way t.workDir, t.NoLink l := by
  intro l hl
  rw [h.workDir] at hl
  exact h.no_links l (.inr (.inr (.inr (.inr (.inr ⟨m, hm, hl⟩)))))

/-- The examples are in a directory, and so are all places on the way to it. -/
theorem examples_way : t.resolve b.layout.examples = .ok (b.layout.root w) ∧
    ∀ l ∈ b.layout.examples.way w, t.get? l = some .directory := by
  have hway := way_of_isDir h.noLink_examples (isDir_of_enumerated h.enumerated)
  rw [h.workDir] at hway
  exact hway

theorem templates_way {d : Path} (hd : b.templates.directory = some d) :
    ∀ l ∈ d.way w, t.get? l = some .directory := by
  have hway := way_of_isDir (fun l hl => h.noLink_templates hd l (.inl (h.workDir ▸ hl)))
    (h.templates d hd)
  rw [h.workDir] at hway
  exact hway.2

theorem manifest_way {m : Path} (hm : b.layout.manifest = some m) :
    (∃ content, t.get? (m.goal w) = some (.file content)) ∧
      ∀ l ∈ m.way w, l = m.goal w ∨ t.get? l = some .directory := by
  obtain ⟨content, hc⟩ := manifest_read h.enumerated hm
  obtain ⟨hfile, hway⟩ := way_of_read (h.noLink_manifest hm) hc
  rw [h.workDir] at hfile hway
  exact ⟨⟨content, hfile⟩, hway⟩

variable (ha : Arranged b ids w)

include ha

theorem noLink_kept (hid : id ∈ ids) (k : Kept) :
    ∀ l ∈ (b.layout.keptOf id k).way t.workDir, t.NoLink l := by
  intro l hl
  rw [h.workDir] at hl
  exact h.no_links l (ha.kept_zone hid k l hl)

theorem noLink_source (hid : id ∈ ids) :
    ∀ l ∈ (b.layout.sourceOf id).way t.workDir, t.NoLink l := by
  intro l hl
  rw [h.workDir] at hl
  exact h.no_links l (ha.source_zone hid l hl)

/-- **Where a kept file is**, if its path leads anywhere. -/
theorem place?_kept (hid : id ∈ ids) {k : Kept} {follow : Bool}
    (hl : t.place? (b.layout.keptOf id k) follow = some l) :
    l = b.layout.beside w id k.suffix := by
  have hg := place?_goal (h.noLink_kept ha hid k) hl
  rw [h.workDir, Layout.goal_keptOf (ha.plain id hid)] at hg
  exact hg

theorem place?_source (hid : id ∈ ids) {follow : Bool}
    (hl : t.place? (b.layout.sourceOf id) follow = some l) :
    l = b.layout.beside w id b.config.extension := by
  have hg := place?_goal (h.noLink_source ha hid) hl
  rw [h.workDir, Layout.goal_sourceOf (ha.plain id hid) ha.extension] at hg
  exact hg

/-- Different kept files have different places. -/
theorem kept_parted {id' : String} (hid : id ∈ ids) (hid' : id' ∈ ids) {k k' : Kept}
    (hne : (id, k) ≠ (id', k')) :
    t.Parted (b.layout.keptOf id k) (b.layout.keptOf id' k') := by
  intro l hl hl'
  have he := (h.place?_kept ha hid hl).symm.trans (h.place?_kept ha hid' hl')
  obtain ⟨rfl, hs⟩ := Layout.beside_inj.1 he
  refine hne ?_
  cases k <;> cases k' <;> first | rfl | exact absurd hs (by decide)

/-- A kept file is not a source. -/
theorem kept_parted_source {id' : String} (hid : id ∈ ids) (hid' : id' ∈ ids) (k : Kept) :
    t.Parted (b.layout.keptOf id k) (b.layout.sourceOf id') := by
  intro l hl hl'
  have he := (h.place?_kept ha hid hl).symm.trans (h.place?_source ha hid' hl')
  exact ha.not_kept k (Layout.beside_inj.1 he).2.symm

end Coherent

/-! ## Changes outside the examples -/

/-- A change of the tree that does not concern the examples: no new links, no directory gone, and
the examples and the manifest as they were. -/
structure Quiet (b : Builder) (w : Location) (t t' : Tree) : Prop where
  workDir : t'.workDir = t.workDir
  noLink : ∀ l, t.NoLink l → t'.NoLink l
  directories : ∀ l, t.get? l = some .directory → t'.get? l = some .directory
  inside : ∀ l, b.layout.Inside w l → t'.get? l = t.get? l
  names : t'.names (b.layout.root w) = t.names (b.layout.root w)
  manifest : ∀ m, b.layout.manifest = some m → t'.get? (m.goal w) = t.get? (m.goal w)

namespace Coherent

variable (h : Coherent b ids f S w t)

include h

/-- Paths beside sources lead over places that a quiet change leaves as they are. -/
theorem quiet_way (hq : Quiet b w t t') {ext : String} (hl : l ∈ b.layout.examples.way w ∨
    l = b.layout.home w id ∨ l = b.layout.beside w id ext) : t.get? l = t'.get? l := by
  rcases hl with hl | rfl | rfl
  · rw [h.examples_way.2 l hl, hq.directories l (h.examples_way.2 l hl)]
  · exact (hq.inside _ Layout.inside_home).symm
  · exact (hq.inside _ Layout.inside_beside).symm

/-- A quiet change leaves the ids as they are. -/
theorem quiet_enumerated (hq : Quiet b w t t') : enumeratedIds b.layout t' = .ok ids := by
  have hw : t.workDir = t'.workDir := hq.workDir.symm
  have hexamples : ∀ l ∈ b.layout.examples.way t.workDir, t.get? l = t'.get? l := by
    intro l hl
    rw [h.workDir] at hl
    rw [h.examples_way.2 l hl, hq.directories l (h.examples_way.2 l hl)]
  have hr := h.examples_way.1
  have hd := isDir_of_enumerated h.enumerated
  rw [← h.enumerated]
  refine (enumeratedIds_congr hd ?_ hr ?_ hq.names.symm (fun n => ?_) (fun n => ?_) ?_).symm
  · rw [← isDir_congr hw hexamples h.noLink_examples]
    exact hd
  · rw [← resolve_congr hw hexamples h.noLink_examples]
    exact hr
  · exact (hq.inside _ ⟨n, List.suffix_rfl⟩).symm
  · exact h.noLink_inside ⟨n, List.suffix_rfl⟩
  · intro m hm
    refine readText_congr hw (fun l hl => ?_) (h.noLink_manifest hm)
    rw [h.workDir] at hl
    rcases (h.manifest_way hm).2 l hl with rfl | hdir
    · exact (hq.manifest m hm).symm
    · rw [hdir, hq.directories l hdir]

variable (ha : Arranged b ids w)

include ha

theorem quiet_kept (hq : Quiet b w t t') (hid : id ∈ ids) (k : Kept) :
    ∀ l ∈ (b.layout.keptOf id k).way t.workDir, t.get? l = t'.get? l := by
  intro l hl
  rw [h.workDir, Layout.way_keptOf (ha.plain id hid)] at hl
  exact h.quiet_way hq hl

theorem quiet_source (hq : Quiet b w t t') (hid : id ∈ ids) :
    ∀ l ∈ (b.layout.sourceOf id).way t.workDir, t.get? l = t'.get? l := by
  intro l hl
  rw [h.workDir, Layout.way_sourceOf (ha.plain id hid) ha.extension] at hl
  exact h.quiet_way hq hl

/-- **A quiet change keeps the invariant.** -/
theorem quiet (hq : Quiet b w t t') : Coherent b ids f S w t' := by
  -- what is on the way of a path that matters is as it was, and so is where it leads
  have hw : t.workDir = t'.workDir := hq.workDir.symm
  have hplace : ∀ id ∈ ids, ∀ k follow, t.place? (b.layout.keptOf id k) follow =
      t'.place? (b.layout.keptOf id k) follow := fun id hid k follow =>
    congrArg Except.toOption
      (resolve_congr hw (h.quiet_kept ha hq hid k) (h.noLink_kept ha hid k))
  have hcontent : ∀ id ∈ ids, ∀ k, t.content? (b.layout.keptOf id k) =
      t'.content? (b.layout.keptOf id k) := fun id hid k =>
    congrArg Except.toOption (read_congr hw (h.quiet_kept ha hq hid k) (h.noLink_kept ha hid k))
  refine ⟨hq.workDir.trans h.workDir, fun l hl => hq.noLink l (h.no_links l hl),
    h.quiet_enumerated hq, fun d hd => ?_, fun id hid k l hl => ?_,
    fun m hm id hid k l hl hl' => ?_, fun id hid source hs => ?_, fun id hid digest text hd hx => ?_⟩
  · rw [← h.templates d hd]
    refine (isDir_congr hw (fun l hl => ?_) fun l hl => ?_).symm
    · have hdir := h.templates_way hd l (h.workDir ▸ hl)
      rw [hdir, hq.directories l hdir]
    · exact h.noLink_templates hd l (.inl (h.workDir ▸ hl))
  · rw [← hplace id hid] at hl
    have hs := h.plain id hid k l hl
    have hin : b.layout.Inside w l := h.place?_kept ha hid hl ▸ Layout.inside_beside
    unfold shapeAt at hs ⊢
    rwa [hq.inside l hin]
  · rw [← hplace id hid] at hl
    refine h.parted m hm id hid k l hl ?_
    rw [← hl']
    refine congrArg Except.toOption (resolve_congr hw (fun l hl => ?_) (h.noLink_manifest hm))
    rw [h.workDir] at hl
    rcases (h.manifest_way hm).2 l hl with rfl | hdir
    · exact (hq.manifest m hm).symm
    · rw [hdir, hq.directories l hdir]
  · rw [← read_congr hw (h.quiet_source ha hq hid) (h.noLink_source ha hid)] at hs
    exact h.sources id hid source hs
  · rw [← hcontent id hid] at hd hx
    exact h.matched id hid digest text hd hx

/-- **Creating the output directory** is quiet. -/
theorem quiet_grows (hg : Grows {l | l ∈ b.config.output.way w} t t') : Quiet b w t t' := by
  refine ⟨hg.workDir, fun l => hg.noLink, fun l => hg.get?_of_some, fun l hl => ?_,
    hg.names _ fun n hn => ha.output_way _ hn ⟨n, List.suffix_rfl⟩, fun m hm => ?_⟩
  · rcases hg.places l with he | ⟨hw, -⟩
    · exact he
    · exact absurd hl (ha.output_way l hw)
  · obtain ⟨⟨content, hc⟩, -⟩ := h.manifest_way hm
    rw [hc]
    exact hg.get?_of_some hc

end Coherent

/-- A file of the output is not in the examples. -/
theorem Arranged.output_not_inside (ha : Arranged b ids w) (n : Name) :
    ¬ b.layout.Inside w (n :: b.config.output.goal w) := by
  rintro ⟨n', hn⟩
  rcases List.suffix_cons_iff.1 hn with he | hs
  · exact ha.output_ne (List.cons.inj he).2.symm
  · exact ha.output_way _ (Path.goal_mem_way _ _) ⟨n', hs⟩

/-- **Writing a file of the output** is quiet. -/
theorem Arranged.quiet_insert (ha : Arranged b ids w) {n : Name} {content : List UInt8}
    (hs : t.shapeAt (n :: b.config.output.goal w) = none) :
    Quiet b w t (t.insert (n :: b.config.output.goal w) (.file content)) := by
  have hne := List.cons_ne_nil n (b.config.output.goal w)
  refine ⟨rfl, fun l hl target => ?_, fun l hl => ?_, fun l hl => ?_, ?_, fun m hm => ?_⟩
  · by_cases he : l = n :: b.config.output.goal w
    · rw [he, get?_insert_self hne]
      simp
    · rw [get?_insert_of_ne hne _ he]
      exact hl target
  · refine (get?_insert_of_ne hne _ fun he => ?_).trans hl
    rw [he] at hl
    rw [shapeAt_directory.2 hl] at hs
    exact Option.some_ne_none _ hs
  · exact get?_insert_of_ne hne _ fun he => ha.output_not_inside n (he ▸ hl)
  · exact names_insert (fun n' he => ha.output_ne (List.cons.inj he).2) _
  · exact get?_insert_of_ne hne _ fun he => ha.manifest_apart m hm (he ▸ List.suffix_cons _ _)

/-! ## Changes beside sources -/

/-- A change of files beside sources: nothing is changed elsewhere, and no directory and no link
comes or goes. -/
structure Beside (layout : Layout) (w : Location) (t t' : Tree) : Prop where
  shape : SameShape t t'
  places : ∀ l, (∀ id ext, l ≠ layout.beside w id ext) → t'.get? l = t.get? l
  names : t'.names (layout.root w) = t.names (layout.root w)

/-- Giving a file beside a source a content. -/
theorem beside_of_sets {layout : Layout} {p : Path} {ext : String} {content : Option (List UInt8)}
    (hs : t.Sets p content t') (hp : ∀ l, t.place? p = some l → l = layout.beside w id ext) :
    Beside layout w t t' := by
  refine ⟨hs.shape, fun l hl => hs.elsewhere l fun h => hl id ext (hp l h), ?_⟩
  exact hs.names _ fun n hn => Layout.beside_ne_child (hp _ hn).symm

/-- If one of the kept files is not there, there is nothing to match. -/
theorem matched_of_none {layout : Layout} {k : Kept}
    (h : t.content? (layout.keptOf id k) = none) : Matched layout f S id t := by
  intro digest text hd hx
  cases k with
  | digest => exact absurd (hd.symm.trans h) (Option.some_ne_none _)
  | transcript => exact absurd (hx.symm.trans h) (Option.some_ne_none _)

namespace Coherent

variable (h : Coherent b ids f S w t)

include h

/-- **A change beside sources keeps the invariant**, if the ids stay as they are, and sources and
kept files are as they should be. -/
theorem beside (hb : Beside b.layout w t t') (hids : enumeratedIds b.layout t' = .ok ids)
    (hs : ∀ id ∈ ids, ∀ source, t'.content? (b.layout.sourceOf id) = some source → source ∈ S id)
    (hm : ∀ id ∈ ids, Matched b.layout f S id t') : Coherent b ids f S w t' := by
  refine ⟨hb.shape.workDir.symm.trans h.workDir, fun l hl => (h.no_links l hl).sameShape hb.shape,
    hids, fun d hd => (hb.shape.isDir_eq d).symm.trans (h.templates d hd),
    fun id hid k => hb.shape.plain (h.plain id hid k),
    fun m hl id hid k => hb.shape.parted (h.parted m hl id hid k), fun id hid source hr => ?_, hm⟩
  exact hs id hid source (read_eq_ok.1 hr)

/-- A change beside sources that leaves the manifest as it is leaves the ids as they are. -/
theorem beside_enumerated (hb : Beside b.layout w t t')
    (hm : ∀ m, b.layout.manifest = some m → t'.content? m = t.content? m) :
    enumeratedIds b.layout t' = .ok ids := by
  have hr := h.examples_way.1
  have hd := isDir_of_enumerated h.enumerated
  rw [← h.enumerated]
  refine (enumeratedIds_congr hd ?_ hr ?_ hb.names.symm (fun n => ?_) (fun n => ?_) ?_).symm
  · rw [← hb.shape.isDir_eq]
    exact hd
  · rw [← toOption_eq_some, ← place?, ← hb.shape.place?_eq, place?, toOption_eq_some]
    exact hr
  · exact (hb.places _ fun id ext => Layout.beside_ne_child.symm).symm
  · exact h.noLink_inside ⟨n, List.suffix_rfl⟩
  · intro m hl
    obtain ⟨content, hc⟩ := manifest_read h.enumerated hl
    have hc' : t'.read m = .ok content := by
      rw [read_eq_ok, hm m hl, ← read_eq_ok]
      exact hc
    unfold readText
    rw [hc, hc']

variable (ha : Arranged b ids w)

include ha

/-- **A change of a kept file keeps the invariant**, if the kept files of its id match. -/
theorem kept (hid : id ∈ ids) {k : Kept} {content : Option (List UInt8)}
    (hs : t.Sets (b.layout.keptOf id k) content t') (hm : Matched b.layout f S id t') :
    Coherent b ids f S w t' := by
  have hb : Beside b.layout w t t' := beside_of_sets hs fun l hl => h.place?_kept ha hid hl
  refine h.beside hb (h.beside_enumerated hb fun m hl => ?_) (fun id' hid' source hr => ?_)
    fun id' hid' => ?_
  · exact hs.content?_of_parted (h.parted m hl id hid k)
  · rw [hs.content?_of_parted (h.kept_parted_source ha hid hid' k), ← read_eq_ok] at hr
    exact h.sources id' hid' source hr
  · by_cases he : id = id'
    · exact he ▸ hm
    · -- the kept files of other ids have other places
      have hother : ∀ k', t'.content? (b.layout.keptOf id' k') =
          t.content? (b.layout.keptOf id' k') := fun k' =>
        hs.content?_of_parted (h.kept_parted ha hid hid' fun hp => he (Prod.mk.inj hp).1)
      intro digest text hd hx
      rw [hother] at hd hx
      exact h.matched id' hid' digest text hd hx

/-- **A change of a source keeps the invariant**, if the ids stay as they are. -/
theorem edited (hid : id ∈ ids) {content : Option (List UInt8)}
    (hs : t.Sets (b.layout.sourceOf id) content t') (hids : enumeratedIds b.layout t' = .ok ids)
    (hin : ∀ source, content = some source → source ∈ S id) : Coherent b ids f S w t' := by
  refine h.beside (beside_of_sets hs fun l hl => h.place?_source ha hid hl) hids
    (fun id' hid' source hr => ?_) fun id' hid' digest text hd hx => ?_
  · by_cases he : id = id'
    · subst he
      exact hin source (hs.here.symm.trans hr)
    · have hp : t.Parted (b.layout.sourceOf id) (b.layout.sourceOf id') := by
        intro l hl hl'
        have hsame := (h.place?_source ha hid hl).symm.trans (h.place?_source ha hid' hl')
        exact he (Layout.beside_inj.1 hsame).1
      rw [hs.content?_of_parted hp, ← read_eq_ok] at hr
      exact h.sources id' hid' source hr
  · have hkept : ∀ k, t'.content? (b.layout.keptOf id' k) = t.content? (b.layout.keptOf id' k) :=
      fun k => hs.content?_of_parted (h.kept_parted_source ha hid' hid k).symm
    rw [hkept] at hd hx
    exact h.matched id' hid' digest text hd hx

end Coherent

end LiterateSite.Site
