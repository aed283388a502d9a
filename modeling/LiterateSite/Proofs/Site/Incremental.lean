import LiterateSite.Proofs.Site.TwinBuilds

/-!
# Incremental builds

* `Regular`: a tree without kept files in which a configuration finds what it needs.
* `Reached`: the trees that builds and changes of sources lead to.
* `cleaned`: a tree without its kept files.
* `Reached.coherent`: **the invariant holds in all of these trees.**
* `incremental_build_eq_clean_build`: **a build that finds kept files does what it does without
  them.**
* `cached_transcript_in_template`: a template that shows a kept file can tell.
-/

namespace LiterateSite.Site

open Files Files.Tree Text

/-- **A tree to begin with**: no links where none are wanted, the ids are those of the
configuration, the templates are in a directory, nothing has been kept, and `S` has the sources. -/
structure Regular (b : Builder) (ids : List String) (S : String → Set (List UInt8)) (t : Tree) :
    Prop where
  no_links : ∀ l ∈ zone b t.workDir, t.NoLink l
  enumerated : enumeratedIds b.layout t = .ok ids
  templates : ∀ d, b.templates.directory = some d → t.isDir d = true
  nothing_kept : ∀ id ∈ ids, ∀ k, t.exists (b.layout.keptOf id k) = false
  sources : ∀ id ∈ ids, ∀ source, t.read (b.layout.sourceOf id) = .ok source → source ∈ S id

/-- **The trees that builds lead to**, successful or not, when sources are written and removed in
between. The ids stay the same. -/
inductive Reached (b : Builder) (ids : List String) (S : String → Set (List UInt8)) (t₀ : Tree) :
    Tree → Prop
  | start : Reached b ids S t₀ t₀
  | write {t t' : Tree} {id : String} {source : List UInt8} (h : Reached b ids S t₀ t)
    (hid : id ∈ ids) (hs : source ∈ S id) (hw : t.write (b.layout.sourceOf id) source = .ok t')
    (hids : enumeratedIds b.layout t' = .ok ids) : Reached b ids S t₀ t'
  | remove {t t' : Tree} {id : String} (h : Reached b ids S t₀ t) (hid : id ∈ ids)
    (hu : t.unlink (b.layout.sourceOf id) = .ok t')
    (hids : enumeratedIds b.layout t' = .ok ids) : Reached b ids S t₀ t'
  | build {s : Session} (h : Reached b ids S t₀ s.files) : Reached b ids S t₀ (b.build s).2.files

/-- The tree without the kept files of some ids. -/
def cleaned (layout : Layout) (ids : List String) (t : Tree) : Tree :=
  ids.foldl (fun t id =>
    without (without t (layout.keptOf id .digest)) (layout.keptOf id .transcript)) t

variable {b : Builder} {ids : List String}
  {f : String → List UInt8 → Except RunError (List UInt8)} {S : String → Set (List UInt8)}
  {w : Location} {t₀ t u : Tree}

/-! ## The invariant -/

section regular

variable (h : Regular b ids S t) (ha : Arranged b ids t.workDir) {id : String} (hid : id ∈ ids)
  {k : Kept} {l : Location}

include h hid

/-- The paths of kept files lead to nothing. -/
theorem Regular.nothing (hl : t.place? (b.layout.keptOf id k) = some l) : t.get? l = none := by
  have hn := h.nothing_kept id hid k
  unfold Tree.exists Tree.stat at hn
  rw [show t.resolve (b.layout.keptOf id k) = .ok l from toOption_eq_some.1 hl] at hn
  cases hg : t.get? l with
  | none => rfl
  | some e =>
    simp only [hg] at hn
    cases hn

theorem Regular.content?_eq_none : t.content? (b.layout.keptOf id k) = none := by
  rw [content?_eq]
  cases hl : t.place? (b.layout.keptOf id k) with
  | none => rfl
  | some l =>
    rw [Option.bind_some]
    unfold fileAt?
    rw [h.nothing hid hl]

include ha

theorem Regular.plain : t.Plain (b.layout.keptOf id k) := by
  intro l hl
  have hfollow := resolve_follow fun l hl => h.no_links l (ha.kept_zone hid k l hl)
  have hl' : t.place? (b.layout.keptOf id k) = some l := by
    unfold place?
    rw [hfollow]
    exact hl
  unfold shapeAt
  rw [h.nothing hid hl']

end regular

/-- **The invariant holds at the beginning.** -/
theorem Regular.coherent (h : Regular b ids S t) (ha : Arranged b ids t.workDir) :
    Coherent b ids f S t.workDir t := by
  refine ⟨rfl, h.no_links, h.enumerated, h.templates, fun id hid k => h.plain ha hid,
    fun m hm id hid k l hl hl' => ?_, h.sources, fun id hid => ?_⟩
  · -- the manifest is there, and a kept file is not
    obtain ⟨content, hc⟩ := manifest_read h.enumerated hm
    have hfile := read_eq_ok.1 hc
    rw [content?_of_place hl', fileAt?_eq_some, h.nothing hid hl] at hfile
    cases hfile
  · exact matched_of_none (h.content?_eq_none hid (k := .digest))

section histories

variable (ha : Arranged b ids t₀.workDir) (hd : TemplatesApart b ids t₀.workDir)
  (hc : b.runner.Computes b.layout ids f) (hinj : ∀ id ∈ ids, Set.InjOn (sourceDigest id) (S id))
  (h₀ : Regular b ids S t₀)

include ha hd hc hinj h₀

/-- **The invariant holds at all times.** -/
theorem Reached.coherent (h : Reached b ids S t₀ t) : Coherent b ids f S t₀.workDir t := by
  induction h with
  | start => exact h₀.coherent ha
  | write h hid hs hw hids ih =>
    have hp := (write_goal (ih.noLink_source ha hid) hw).1
    refine ih.edited ha hid (sets_write hp hw) hids fun source he => ?_
    rw [← Option.some.inj he]
    exact hs
  | remove h hid hu hids ih =>
    have hp := plain_of_unlink (ih.noLink_source ha hid) hu
    exact ih.edited ha hid (sets_unlink hp hu) hids fun source he => by cases he
  | build h ih => exact ih.build ha hd hc hinj

end histories

/-! ## Cleaned trees -/

theorem Twins.without (ha : Arranged b ids w) (h : Twins b ids f S w ids ∅ t u) {id : String}
    (hid : id ∈ ids) (k : Kept) :
    Twins b ids f S w ids ∅ t (without u (b.layout.keptOf id k)) := by
  have hs := sets_without (h.right.plain id hid k)
  refine ⟨h.left, h.right.kept ha hid hs (matched_of_none hs.here), h.shape.trans hs.shape,
    ⟨h.agree.workDir.trans hs.shape.workDir, fun l hl => ?_⟩, h.held⟩
  rw [h.agree.places l hl, hs.elsewhere l fun hp => ?_]
  exact hl ⟨id, hid, k, h.right.place?_kept ha hid hp⟩

/-- **A cleaned tree** differs in kept files only. -/
theorem Coherent.cleaned_twins (ha : Arranged b ids w) (h : Coherent b ids f S w t) :
    Twins b ids f S w ids ∅ t (cleaned b.layout ids t) := by
  have hfold : ∀ (some : List String) (u : Tree), (∀ id ∈ some, id ∈ ids) →
      Twins b ids f S w ids ∅ t u → Twins b ids f S w ids ∅ t (cleaned b.layout some u) := by
    intro some
    induction some with
    | nil => intro u _ hu; exact hu
    | cons id rest ih =>
      intro u hsub hu
      have hid := hsub id List.mem_cons_self
      refine ih _ (fun id h => hsub id (List.mem_cons_of_mem _ h)) ?_
      exact (hu.without ha hid .digest).without ha hid .transcript
  refine hfold ids t (fun _ h => h) ?_
  exact ⟨h, h, SameShape.refl t, ⟨rfl, fun _ _ => rfl⟩,
    fun p hp => absurd hp (Set.notMem_empty p)⟩

/-- **Incremental builds.** Whatever builds there have been, and whatever sources have been written
and removed in between, a build succeeds exactly if it does so when all kept files are deleted
first; and then both leave the same files, with all products among them. -/
theorem incremental_build_eq_clean_build (ha : Arranged b ids t₀.workDir)
    (hd : TemplatesApart b ids t₀.workDir) (hc : b.runner.Computes b.layout ids f)
    (hinj : ∀ id ∈ ids, Set.InjOn (sourceDigest id) (S id)) (h₀ : Regular b ids S t₀)
    (h : Reached b ids S t₀ t) :
    ((∃ r, (b.build { files := t }).1 = .ok r) ↔
        ∃ r, (b.build { files := cleaned b.layout ids t }).1 = .ok r) ∧
      ∀ r, (b.build { files := t }).1 = .ok r →
        (∀ p, (b.build { files := t }).2.files.read p =
          (b.build { files := cleaned b.layout ids t }).2.files.read p) ∧
        ∀ p ∈ b.products ids, ∃ content,
          (b.build { files := t }).2.files.read p = .ok content := by
  -- the two builds start from trees that differ in kept files, and run side by side
  have htwins := (h.coherent ha hd hc hinj h₀).cleaned_twins ha
  have hends := lockstep_build ha hd hc hinj { files := t }
    { files := cleaned b.layout ids t } htwins rfl
  refine ⟨hends.ok_iff, fun r hr => ?_⟩
  obtain ⟨r', hafter⟩ := hends.of_ok hr
  refine ⟨fun p => ?_, fun p hp => ?_⟩
  · refine read_eq_of_get? hafter.agree.workDir (fun l => hafter.agree.places l ?_) p
    rintro ⟨id, hid, -⟩
    exact absurd hid List.not_mem_nil
  · obtain ⟨content, hcontent⟩ := hafter.held p hp
    exact ⟨content, read_eq_ok.2 hcontent⟩

/-! ## Small sites -/

/-- The place at the end of some names. -/
def locationOf (names : List String) : Location := (names.map fun n => Name.text n.toList).reverse

/-- A regular tree is recognised by looking at its entries and at the paths of each id. -/
theorem regular_of_entries (hl : t.entries.all (fun x => !x.2.isLink) = true)
    (he : (enumeratedIds b.layout t).toOption = some ids)
    (ht : ∀ d, b.templates.directory = some d → t.isDir d = true)
    (hk : ∀ id ∈ ids, t.exists (b.layout.keptOf id .digest) = false ∧
      t.exists (b.layout.keptOf id .transcript) = false)
    (hs : ∀ id ∈ ids, ∃ source ∈ S id, t.content? (b.layout.sourceOf id) = some source) :
    Regular b ids S t := by
  refine ⟨fun l _ => noLink_of_entries hl l, toOption_eq_some.1 he, ht, fun id hid k => ?_,
    fun id hid source hr => ?_⟩
  · cases k with
    | digest => exact (hk id hid).1
    | transcript => exact (hk id hid).2
  · obtain ⟨source', hin, hc⟩ := hs id hid
    rw [← Option.some.inj (hc.symm.trans (read_eq_ok.1 hr))] at *
    exact hin

theorem eq_ok_of_isSome {ε α : Type} {r : Except ε α} {a : α} (h : r.toOption.isSome = true) :
    r = .ok (r.toOption.getD a) := by
  cases r with
  | error e => cases h
  | ok b => rfl

/-- A runner that puts out the source. -/
def echo : Runner where
  run t p :=
    { files := t
      result := match t.read p with
        | .ok source => .ok source
        | .error _ => .error (.failed "sh" p "exit status: 1" []) }

theorem echo_computes (layout : Layout) (ids : List String) :
    echo.Computes layout ids fun _ source => .ok source := by
  refine ⟨fun _ _ => rfl, fun t id _ source hs => ?_⟩
  unfold echo
  simp only [hs]

/-- A site of one example with templates of its own. -/
def oneExample : Builder where
  config := { minify := false }
  templates :=
    { directory := some (Path.ofString "templates"), overridden := ["example.html", "index.html"] }
  runner := echo
  highlighter := Highlight.Highlighter.plain

/-- The files of the site before its first build. -/
def oneExampleTree : Tree where
  entries := [(locationOf ["examples"], .directory), (locationOf ["examples", "a"], .directory),
    (locationOf ["examples", "a", "a.js"], .file []), (locationOf ["templates"], .directory),
    (locationOf ["templates", "example.html"], .file []),
    (locationOf ["templates", "index.html"], .file [])]

/-- The files after a build, with another source. -/
def oneExampleEdited : Tree :=
  ((oneExample.build { files := oneExampleTree }).2.files.write (oneExample.layout.sourceOf "a")
    [49]).toOption.getD oneExampleTree

theorem oneExample_reached :
    Reached oneExample ["a"] (fun _ => {[], [49]}) oneExampleTree oneExampleEdited := by
  have hbuilt : Reached oneExample ["a"] (fun _ => {[], [49]}) oneExampleTree
      (oneExample.build { files := oneExampleTree }).2.files := .build .start
  refine .write hbuilt (List.mem_singleton_self "a") (.inr rfl) (eq_ok_of_isSome ?_)
    (toOption_eq_some.1 ?_)
  · decide +kernel
  · decide +kernel

/-- A site is built, a source is changed, and the site is built again. -/
theorem incremental_build_after_edit :
    (∃ content, oneExampleEdited.content? (oneExample.layout.keptOf "a" .digest) = some content) ∧
      (∃ r, (oneExample.build { files := cleaned oneExample.layout ["a"] oneExampleEdited }).1 =
        .ok r) ∧
      ∀ p ∈ oneExample.products ["a"], ∃ content,
        (oneExample.build { files := oneExampleEdited }).2.files.read p = .ok content ∧
        (oneExample.build { files := cleaned oneExample.layout ["a"] oneExampleEdited }).2.files.read
          p = .ok content := by
  have harranged : Arranged oneExample ["a"] oneExampleTree.workDir := by
    refine ⟨by decide, by decide, by decide, fun k => by cases k <;> decide,
      fun l hl hin => ?_, by decide, fun m hm => by cases hm⟩
    have hshort : ∀ l ∈ oneExample.config.output.way oneExampleTree.workDir,
        l.length ≤ (oneExample.layout.root oneExampleTree.workDir).length := by decide
    exact absurd hin.length_lt (Nat.not_lt.2 (hshort l hl))
  have hapart : TemplatesApart oneExample ["a"] oneExampleTree.workDir := by
    rintro d hd id hid
    cases hd
    rw [List.mem_singleton.1 hid]
    decide
  have hinj : ∀ id ∈ ["a"], Set.InjOn (sourceDigest id) {[], [49]} := by
    intro id hid
    rw [List.mem_singleton.1 hid]
    have hne : sourceDigest "a" [] ≠ sourceDigest "a" [49] := by decide +kernel
    rintro x (rfl | rfl) y (rfl | rfl) hxy
    · rfl
    · exact absurd hxy hne
    · exact absurd hxy.symm hne
    · rfl
  have hregular : Regular oneExample ["a"] (fun _ => {[], [49]}) oneExampleTree := by
    refine regular_of_entries (by decide) (by decide +kernel) ?_ ?_ ?_
    · rintro d hd
      cases hd
      decide +kernel
    · decide +kernel
    · intro id hid
      rw [List.mem_singleton.1 hid]
      exact ⟨[], .inl rfl, by decide +kernel⟩
  have hbuilt : (oneExample.build { files := oneExampleEdited }).1.toOption.isSome = true := by
    decide +kernel
  obtain ⟨r, hr⟩ := Option.isSome_iff_exists.1 hbuilt
  rw [toOption_eq_some] at hr
  obtain ⟨hiff, hsame⟩ := incremental_build_eq_clean_build harranged hapart
    (echo_computes _ _) hinj hregular oneExample_reached
  obtain ⟨hread, hproducts⟩ := hsame r hr
  refine ⟨?_, hiff.1 ⟨r, hr⟩, fun p hp => ?_⟩
  · exact Option.isSome_iff_exists.1 (by decide +kernel)
  · obtain ⟨content, hc⟩ := hproducts p hp
    exact ⟨content, hc, (hread p).symm.trans hc⟩

/-- A site whose templates are in the directory of the examples, and show the transcript of one of
them. -/
def mirror : Builder where
  config := { manifest := some (Path.ofString "order.txt"), minify := false }
  templates :=
    { directory := some (Path.ofString "examples"), overridden := ["example.html", "index.html"] }
  runner := echo
  highlighter := Highlight.Highlighter.plain

/-- The files of that site before its first build. -/
def mirrorTree : Tree where
  entries := [(locationOf ["examples"], .directory), (locationOf ["examples", "bar"], .directory),
    (locationOf ["examples", "bar", "bar.js"], .file []),
    (locationOf ["examples", "foo"], .directory),
    (locationOf ["examples", "foo", "foo.js"], .file []),
    (locationOf ["examples", "example.html"],
      .file (Utf8.ofString "\x7b% include \"foo/foo.transcript\" ignore missing %\x7d")),
    (locationOf ["examples", "index.html"], .file []),
    (locationOf ["order.txt"], .file (Utf8.ofString "bar\nfoo\n"))]

/-- The files after the first build. -/
def mirrorBuilt : Tree := (mirror.build { files := mirrorTree }).2.files

/-- **A template that shows a kept file** can tell an incremental build from a clean one: the page
of the first example is written before the transcript of the second one is there. -/
theorem cached_transcript_in_template :
    Arranged mirror ["bar", "foo"] mirrorTree.workDir ∧
      (∀ d, mirror.templates.directory = some d →
        ¬ mirror.config.output.goal mirrorTree.workDir <:+ d.goal mirrorTree.workDir ∧
        ¬ d.goal mirrorTree.workDir <:+ mirror.config.output.goal mirrorTree.workDir) ∧
      mirror.runner.Computes mirror.layout ["bar", "foo"] (fun _ source => .ok source) ∧
      (∀ id ∈ ["bar", "foo"], Set.InjOn (sourceDigest id) {[]}) ∧
      Regular mirror ["bar", "foo"] (fun _ => {[]}) mirrorTree ∧
      Reached mirror ["bar", "foo"] (fun _ => {[]}) mirrorTree mirrorBuilt ∧
      ((mirror.build { files := mirrorBuilt }).1.isOk = true ∧
        (mirror.build { files := mirrorBuilt }).2.files.content? (mirror.outputPath "bar.html") =
          some (Utf8.ofString "$ run foo")) ∧
      (mirror.build { files := cleaned mirror.layout ["bar", "foo"] mirrorBuilt }).1.isOk = true ∧
      (mirror.build { files := cleaned mirror.layout ["bar", "foo"] mirrorBuilt }).2.files.content?
        (mirror.outputPath "bar.html") = some [] := by
  refine ⟨⟨by decide, by decide, by decide, fun k => by cases k <;> decide,
    fun l hl hin => ?_, by decide, ?_⟩, ?_, echo_computes _ _, ?_, ?_, .build .start, ?_, ?_⟩
  · have hshort : ∀ l ∈ mirror.config.output.way mirrorTree.workDir,
        l.length ≤ (mirror.layout.root mirrorTree.workDir).length := by decide
    exact absurd hin.length_lt (Nat.not_lt.2 (hshort l hl))
  · rintro m hm
    cases hm
    decide
  · rintro d hd
    cases hd
    decide
  · rintro id - x rfl y rfl -
    rfl
  · refine regular_of_entries (by decide) (by decide +kernel) ?_ ?_ ?_
    · rintro d hd
      cases hd
      decide +kernel
    · decide +kernel
    · have hempty : ∀ id ∈ ["bar", "foo"],
          mirrorTree.content? (mirror.layout.sourceOf id) = some [] := by decide +kernel
      exact fun id hid => ⟨[], rfl, hempty id hid⟩
  · decide +kernel
  · decide +kernel

end LiterateSite.Site
