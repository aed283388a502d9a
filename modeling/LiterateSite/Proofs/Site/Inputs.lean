import LiterateSite.Proofs.Site.Manifest
import LiterateSite.Proofs.Site.Phases

/-!
# A build and its inputs

* `siteNames`, `writtenPlaces`: the places of the files that a build writes or removes.
* `goal_products`: the paths of these files lead there.
* `build_leaves`: **what is elsewhere stays as it is**, or comes to be on the way to the output
  directory.
* `build_ids`: **a build leaves the ids as they are.** `plain_ids`: they are plain names.
* `build_spares_inputs`: **a build changes its own files only**, and no source, manifest or template
  that is none of them.
* `build_damages_inputs`: configurations under which an input is one of them.
-/

namespace LiterateSite.Site

open Files Files.Tree Text

/-- The names of the files in the output directory. -/
def siteNames (ids : List String) : Set String :=
  {n | n = "site.css" ∨ n = "code.css" ∨ n ∈ outputNames ids}

/-- The places of the files that a build writes or removes: files in the output directory, and kept
files in the directories of the examples. -/
def writtenPlaces (b : Builder) (ids : List String) (w : Location) : Set Location :=
  {l | (∃ n ∈ siteNames ids, l = .text n.toList :: b.config.output.goal w) ∨
    l ∈ keptPlaces b.layout w ids}

variable {b : Builder} {ids : List String} {id n : String} {s : Session} {t t' : Tree}
  {w l : Location} {p q : Path} {content : List UInt8}

theorem plainName_site (hp : ∀ id ∈ ids, Path.PlainName id.toList) (h : n ∈ siteNames ids) :
    Path.PlainName n.toList := by
  rcases h with rfl | rfl | h
  · decide
  · decide
  · exact plainName_output hp h

/-- **Where a product is.** -/
theorem goal_products (hp : ∀ id ∈ ids, Path.PlainName id.toList) (h : p ∈ b.products ids)
    (w : Location) : (∃ n ∈ siteNames ids, p = b.outputPath n ∧
        p.goal w = .text n.toList :: b.config.output.goal w) ∨
      ∃ id ∈ ids, ∃ k, p = b.layout.keptOf id k ∧ p.goal w = b.layout.beside w id k.suffix := by
  have hsite : ∀ n ∈ siteNames ids, p = b.outputPath n → ∃ n ∈ siteNames ids,
      p = b.outputPath n ∧ p.goal w = .text n.toList :: b.config.output.goal w := by
    rintro n hn rfl
    exact ⟨n, hn, rfl, Path.goal_join_plain (plainName_site hp hn)⟩
  rcases h with h | (h | h) | ⟨id, hid, h | ⟨k, rfl⟩⟩
  · exact .inl (hsite "index.html" (.inr (.inr index_mem)) h)
  · exact .inl (hsite "site.css" (.inl rfl) h)
  · exact .inl (hsite "code.css" (.inr (.inl rfl)) h)
  · exact .inl (hsite (id ++ ".html") (.inr (.inr (page_mem hid))) h)
  · exact .inr ⟨id, hid, k, rfl, Layout.goal_keptOf (hp id hid) k⟩

theorem goal_mem_written (hp : ∀ id ∈ ids, Path.PlainName id.toList) (h : p ∈ b.products ids)
    (w : Location) : p.goal w ∈ writtenPlaces b ids w := by
  rcases goal_products hp h w with ⟨n, hn, -, hg⟩ | ⟨id, hid, k, -, hg⟩
  · exact .inl ⟨n, hn, hg⟩
  · exact .inr ⟨id, hid, k, hg⟩

/-- A product that is changed is in a directory. -/
theorem written_in_directory (h : Rewrites (b.products ids) t t')
    (hp : ∀ id ∈ ids, Path.PlainName id.toList) (hne : t'.get? l ≠ t.get? l) :
    (∃ n ∈ siteNames ids, l = .text n.toList :: b.config.output.goal t.workDir ∧
        t'.get? (b.config.output.goal t.workDir) = some .directory) ∨
      ∃ id ∈ ids, ∃ k : Kept, l = b.layout.beside t.workDir id k.suffix ∧
        t'.get? (b.layout.home t.workDir id) = some .directory := by
  rcases h.places l with he | ⟨p, hprod, hl, hway⟩
  · exact absurd he hne
  rcases goal_products hp hprod t.workDir with ⟨n, hn, rfl, hg⟩ | ⟨id, hid, k, rfl, hg⟩
  · refine .inl ⟨n, hn, hl.trans hg, h.directory ?_⟩
    rcases hway _ ((outputPath_way (plainName_site hp hn)).2
      (.inl (Path.goal_mem_way _ _))) with he | hd
    · -- the output directory is not its own file
      have hlen := congrArg List.length (he.trans (hl.trans hg))
      simp at hlen
    · exact hd
  · refine .inr ⟨id, hid, k, hl.trans hg, h.directory ?_⟩
    rcases hway _ ((Layout.way_keptOf (hp id hid) k).2 (.inr (.inl rfl))) with he | hd
    · exact absurd (he.trans (hl.trans hg)).symm Layout.beside_ne_home
    · exact hd

section build

variable (hl : s.files.Linkless) (hf : ∀ t p, (b.runner.run t p).files = t)
  (hp : ∀ ids, enumeratedIds b.layout s.files = .ok ids → ∀ id ∈ ids, Path.PlainName id.toList)

include hl hf hp

/-- **What a build leaves at a place**: what was there; or a directory on the way to the output,
where nothing was; or else the place is that of a file that it writes or removes. -/
theorem build_leaves (l : Location) :
    (b.build s).2.files.get? l = s.files.get? l ∨
      ∃ ids, enumeratedIds b.layout s.files = .ok ids ∧
        ((l ∈ b.config.output.way s.files.workDir ∧ s.files.get? l = none ∧
            (b.build s).2.files.get? l = some .directory) ∨
          (s.files.shapeAt l = none ∧ (b.build s).2.files.shapeAt l = none) ∧
            ((∃ n ∈ siteNames ids, l = .text n.toList :: b.config.output.goal s.files.workDir ∧
                (b.build s).2.files.get? (b.config.output.goal s.files.workDir) =
                  some .directory) ∨
              ∃ id ∈ ids, ∃ k : Kept, l = b.layout.beside s.files.workDir id k.suffix ∧
                (b.build s).2.files.get? (b.layout.home s.files.workDir id) =
                  some .directory)) := by
  rcases build_rewrites hf hl with he | ⟨ids, t, hids, hg, hr⟩
  · rw [he]
    exact .inl rfl
  generalize (b.build s).2.files = t' at hr ⊢
  by_cases hne : t'.get? l = t.get? l
  · -- then it is the creation of the output directory that has changed the place, if anything has
    rw [hne]
    rcases hg.places l with he | ⟨hway, hn, hd⟩
    · exact .inl he
    · exact .inr ⟨ids, hids, .inl ⟨hway, hn, hd⟩⟩
  · obtain ⟨hs, hs'⟩ := hr.shapeAt_of_ne hne
    have hdir := written_in_directory hr (hp ids hids) hne
    rw [hg.workDir] at hdir
    refine .inr ⟨ids, hids, .inr ⟨⟨?_, hs'⟩, hdir⟩⟩
    rcases hg.places l with he | ⟨-, -, hd⟩
    · unfold shapeAt at hs ⊢
      rwa [he] at hs
    · rw [shapeAt_directory.2 hd] at hs
      cases hs

/-- **A file that is none of those that a build writes** can be read as before. -/
theorem build_reads (hr : s.files.read q = .ok content)
    (hq : ∀ ids, enumeratedIds b.layout s.files = .ok ids →
      q.goal s.files.workDir ∉ writtenPlaces b ids s.files.workDir) :
    (b.build s).2.files.read q = .ok content := by
  rcases build_rewrites hf hl with he | ⟨ids, t, hids, hg, hrw⟩
  · rw [he]
    exact hr
  · have hread : t.read q = .ok content := hg.read_of_ok hl hr
    refine hrw.read_of_ok (hl.grows hg) (fun p hprod he => ?_) hread
    rw [hg.workDir] at he
    exact hq ids hids (he ▸ goal_mem_written (hp ids hids) hprod _)

end build

/-! ## The ids after a build -/

/-- The ids of a tree stay the same if the names in the directory of the examples do, and the
manifest. -/
theorem enumerated_stays (hl : t.Linkless) (hl' : t'.Linkless) (hw : t'.workDir = t.workDir)
    (hids : enumeratedIds b.layout t = .ok ids) (hd : t'.isDir b.layout.examples = true)
    (hnames : t'.names (b.layout.root t.workDir) = t.names (b.layout.root t.workDir))
    (hget : ∀ n, t'.get? (n :: b.layout.root t.workDir) = t.get? (n :: b.layout.root t.workDir))
    (hm : ∀ m content, b.layout.manifest = some m → t.read m = .ok content →
      t'.read m = .ok content) : enumeratedIds b.layout t' = .ok ids := by
  have hdir := isDir_of_enumerated hids
  have hroot := (way_of_isDir (fun k _ => hl k) hdir).1
  have hroot' := (way_of_isDir (fun k _ => hl' k) hd).1
  rw [hw] at hroot'
  rw [← hids]
  refine (enumeratedIds_congr hdir hd hroot hroot' hnames.symm (fun n => (hget n).symm)
    (fun n => hl _) fun m hman => ?_).symm
  obtain ⟨content, hc⟩ := manifest_read hids hman
  unfold readText
  rw [hc, hm m content hman hc]

/-- **A change of files** that are not in the directory of the examples, nor the manifest. -/
theorem enumerated_rewrites {P : Set Path} (hl : t.Linkless)
    (hids : enumeratedIds b.layout t = .ok ids) (hr : Rewrites P t t')
    (hP : ∀ p ∈ P, ∀ n, p.goal t.workDir ≠ n :: b.layout.root t.workDir)
    (hm : ∀ m, b.layout.manifest = some m → ∀ p ∈ P, p.goal t.workDir ≠ m.goal t.workDir) :
    enumeratedIds b.layout t' = .ok ids := by
  refine enumerated_stays hl (hr.linkless hl) hr.workDir hids
    (hr.isDir (isDir_of_enumerated hids)) (hr.names _ hP) (fun n => ?_) fun m content hman hc => ?_
  · exact hr.get?_eq fun p hp => hP p hp n
  · exact hr.read_of_ok hl (hm m hman) hc

/-- **A build leaves the ids as they are** if the manifest is no kept file. -/
theorem build_ids (hl : s.files.Linkless) (hf : ∀ t p, (b.runner.run t p).files = t)
    (ha : Arranged b ids s.files.workDir) (hids : enumeratedIds b.layout s.files = .ok ids)
    (hm : ∀ m, b.config.manifest = some m →
      m.goal s.files.workDir ∉ keptPlaces b.layout s.files.workDir ids) :
    enumeratedIds b.layout (b.build s).2.files = .ok ids := by
  rcases build_rewrites hf hl with he | ⟨ids', t, hids', hg, hr⟩
  · rw [he]
    exact hids
  obtain rfl := Except.ok.inj (hids'.symm.trans hids)
  have hl₁ : t.Linkless := hl.grows hg
  -- the way to the output does not go into the examples
  have hway : ∀ n, n :: b.layout.root s.files.workDir ∉ b.config.output.way s.files.workDir :=
    fun n hn => ha.output_way _ hn ⟨n, List.suffix_rfl⟩
  have hids₁ : enumeratedIds b.layout t = .ok ids' := by
    refine enumerated_stays hl hl₁ hg.workDir hids (hg.isDir hl (isDir_of_enumerated hids))
      (hg.names _ hway) (fun n => ?_) fun m content _ hc => hg.read_of_ok hl hc
    rcases hg.places (n :: b.layout.root s.files.workDir) with he | ⟨hin, -⟩
    · exact he
    · exact absurd hin (hway n)
  rw [← hg.workDir] at ha hm
  refine enumerated_rewrites hl₁ hids₁ hr (fun p hp n he => ?_) fun m hman p hp he => ?_
  · rcases goal_products ha.plain hp t.workDir with ⟨n', -, -, hgoal⟩ | ⟨id, hid, k, -, hgoal⟩
    · exact ha.output_ne (List.cons.inj (hgoal.symm.trans he)).2
    · exact Layout.beside_ne_child (hgoal.symm.trans he)
  · rcases goal_products ha.plain hp t.workDir with ⟨n', -, -, hgoal⟩ | ⟨id, hid, k, -, hgoal⟩
    · refine ha.manifest_apart m hman ?_
      rw [← he, hgoal]
      exact List.suffix_cons _ _
    · exact hm m hman ⟨id, hid, k, he.symm.trans hgoal⟩

/-- **Ids are plain names** if the names of the directories and the lines of a manifest are. -/
theorem plain_ids (hd : t.Distinct)
    (hn : ∀ id, IsSubdirectory t b.layout.examples id → Path.PlainName id.toList)
    (hm : ∀ m text, b.layout.manifest = some m → t.readText m = .ok text →
      ∀ id ∈ manifestIds text, Path.PlainName id.toList)
    (hids : enumeratedIds b.layout t = .ok ids) : ∀ id ∈ ids, Path.PlainName id.toList := by
  cases hman : b.layout.manifest with
  | none => exact fun id hid => hn id (((ids_without_manifest hd hman hids).2 id).1 hid)
  | some m =>
    obtain ⟨-, found, -, hordered⟩ := enumeratedIds_eq_ok.1 hids
    obtain ⟨text, htext, rfl, -⟩ := (orderedIds_eq_ok hman).1 hordered
    exact hm m text hman htext

/-- **A build changes its own files only.** There are no links, the runner touches no file, and a
manifest lists plain names (`plain_ids`); the build succeeds or fails. Then each place is as it was,
or a directory has come to be there, on the way to the output; or it is the place of a style sheet,
of the index, of a page, or of a kept file in the directory of an example, with a file or nothing
before and after. All other files can be read as before: a source, if it is not named like a kept
file and the output directory is not the one of its example; the manifest, if it is not in the
output directory and no kept file; and what is in the directory of the templates, if neither the
output directory nor one of the examples is. -/
theorem build_spares_inputs (hl : s.files.Linkless) (hf : ∀ t p, (b.runner.run t p).files = t)
    (hp : ∀ ids, enumeratedIds b.layout s.files = .ok ids →
      ∀ id ∈ ids, Path.PlainName id.toList) :
    let t := s.files
    let t' := (b.build s).2.files
    let w := t.workDir
    (∀ l, t'.get? l = t.get? l ∨ ∃ ids, enumeratedIds b.layout t = .ok ids ∧
      ((l ∈ b.config.output.way w ∧ t.get? l = none ∧ t'.get? l = some .directory) ∨
        (t.shapeAt l = none ∧ t'.shapeAt l = none) ∧
          ((∃ n ∈ siteNames ids, l = .text n.toList :: b.config.output.goal w ∧
              t'.get? (b.config.output.goal w) = some .directory) ∨
            ∃ id ∈ ids, ∃ k : Kept, l = b.layout.beside w id k.suffix ∧
              t'.get? (b.layout.home w id) = some .directory))) ∧
    (∀ q content, t.read q = .ok content → (∀ ids, enumeratedIds b.layout t = .ok ids →
      q.goal w ∉ writtenPlaces b ids w) → t'.read q = .ok content) ∧
    (∀ ids, enumeratedIds b.layout t = .ok ids → '/' ∉ b.config.extension.toList →
      (∀ k : Kept, b.config.extension ≠ k.suffix) → ∀ id ∈ ids,
        b.config.output.goal w ≠ b.layout.home w id → ∀ source,
          t.read (b.layout.sourceOf id) = .ok source →
            t'.read (b.layout.sourceOf id) = .ok source) ∧
    (∀ m, b.config.manifest = some m → (∀ n, m.goal w ≠ n :: b.config.output.goal w) →
      (∀ ids, enumeratedIds b.layout t = .ok ids → m.goal w ∉ keptPlaces b.layout w ids) →
        ∀ content, t.read m = .ok content → t'.read m = .ok content) ∧
    ∀ d, b.templates.directory = some d → ¬ d.goal w <:+ b.config.output.goal w →
      (∀ ids, enumeratedIds b.layout t = .ok ids → TemplatesApart b ids w) →
        ∀ q n l, q.goal w = n :: l → d.goal w <:+ l → ∀ content, t.read q = .ok content →
          t'.read q = .ok content := by
  intro t t' w
  have hreads : ∀ q content, t.read q = .ok content →
      (∀ ids, enumeratedIds b.layout t = .ok ids → q.goal w ∉ writtenPlaces b ids w) →
        t'.read q = .ok content := fun q content hr hq => build_reads hl hf hp hr hq
  refine ⟨build_leaves hl hf hp, hreads, fun ids hids hext hkept id hid hout source hr => ?_,
    fun m hm hout hkept content hr => ?_, fun d hd hout hex q n l hq hdl content hr => ?_⟩
  · refine hreads _ _ hr fun ids' hids' => ?_
    rw [Layout.goal_sourceOf (hp ids hids id hid) hext]
    rintro (⟨n, -, he⟩ | ⟨id', -, k, he⟩)
    · exact hout (List.cons.inj he).2.symm
    · exact hkept k (Layout.beside_inj.1 he).2
  · refine hreads _ _ hr fun ids hids => ?_
    rintro (⟨n, -, he⟩ | hk)
    · exact hout _ he
    · exact hkept ids hids hk
  · refine hreads _ _ hr fun ids hids => ?_
    rw [hq]
    -- the directory around the file is neither the output directory nor one of the examples
    rintro (⟨n', -, he⟩ | ⟨id, hid, k, he⟩)
    · exact hout ((List.cons.inj he).2 ▸ hdl)
    · exact hex ids hids d hd id hid ((List.cons.inj he).2 ▸ hdl)

/-- The source and a template of a site of one example after a build. -/
theorem build_spares_inputs_one :
    (oneExample.build { files := oneExampleTree }).2.files.read (oneExample.layout.sourceOf "a") =
        .ok [] ∧
      (oneExample.build { files := oneExampleTree }).2.files.read
        (Path.ofString "templates/index.html") = .ok [] := by
  have hids : enumeratedIds oneExample.layout oneExampleTree = .ok ["a"] :=
    toOption_eq_some.1 (by decide +kernel)
  have hsource : oneExampleTree.read (oneExample.layout.sourceOf "a") = .ok [] :=
    toOption_eq_some.1 (by decide +kernel)
  have htemplate : oneExampleTree.read (Path.ofString "templates/index.html") = .ok [] :=
    toOption_eq_some.1 (by decide +kernel)
  obtain ⟨-, -, hsources, -, htemplates⟩ := build_spares_inputs (b := oneExample)
    (s := { files := oneExampleTree }) (noLink_of_entries (by decide)) (fun _ _ => rfl)
    fun ids h => by
      obtain rfl := Except.ok.inj (hids.symm.trans h)
      decide
  refine ⟨hsources ["a"] hids (by decide) (fun k => by cases k <;> decide) "a" (by decide)
    (by decide) [] hsource, ?_⟩
  refine htemplates _ rfl (by decide) (fun ids h d hd id hid => ?_) _
    (.text "index.html".toList) (locationOf ["templates"]) (by decide) (by decide) [] htemplate
  obtain rfl := Except.ok.inj (hids.symm.trans h)
  cases hd
  rw [List.mem_singleton.1 hid]
  decide

/-- A site of one example with a template of the index that is not what it renders to. -/
def notedIndex (more : List (Location × Files.Entry)) : Tree :=
  (pageAndIndex "a" more).insert (locationOf ["templates", "index.html"])
    (.file (Utf8.ofString "\x7b# to be written #\x7dindex"))

/-- **Builds that damage what they should leave alone**, none with links. A manifest with a line
that leads out of the examples makes a build write a file that is neither in the output directory
nor in the directory of an example; a page is written in place of its source, and the index in place
of the manifest, and of the template that it is made of. -/
theorem build_damages_inputs :
    (let b : Builder :=
        { oneExample with
          config := { oneExample.config with manifest := some (Path.ofString "order.txt") } }
      let t := notedIndex [(locationOf ["x"], .directory), (locationOf ["x.js"], .file []),
        (locationOf ["order.txt"], .file (Utf8.ofString "../x\n"))]
      let l := locationOf ["x.hash"]
      t.Linkless ∧ (b.build { files := t }).1.isOk = true ∧
        (∀ n, l ≠ n :: b.config.output.goal t.workDir) ∧ l ∉ b.config.output.way t.workDir ∧
        (∀ n m, l ≠ n :: m :: b.layout.root t.workDir) ∧ t.get? l = none ∧
        ((b.build { files := t }).2.files.fileAt? l).isSome = true) ∧
    (let b : Builder :=
        { oneExample with
          config :=
            { oneExample.config with extension := "html", output := Path.ofString "examples/a" } }
      let t := notedIndex [(locationOf ["examples", "a", "a.html"], .file [49])]
      t.Linkless ∧ (b.build { files := t }).1.isOk = true ∧
        t.content? (b.layout.sourceOf "a") = some [49] ∧
        (b.build { files := t }).2.files.content? (b.layout.sourceOf "a") =
          some (Utf8.ofString "page")) ∧
    (let m := Path.ofString "public/index.html"
      let b : Builder :=
        { oneExample with config := { oneExample.config with manifest := some m } }
      let t := notedIndex [(locationOf ["public"], .directory),
        (locationOf ["public", "index.html"], .file (Utf8.ofString "a\n"))]
      t.Linkless ∧ (b.build { files := t }).1.isOk = true ∧
        t.content? m = some (Utf8.ofString "a\n") ∧
        (b.build { files := t }).2.files.content? m = some (Utf8.ofString "index")) ∧
    (let template := Path.ofString "templates/index.html"
      let b : Builder :=
        { oneExample with
          config := { oneExample.config with output := Path.ofString "templates" } }
      let t := notedIndex []
      t.Linkless ∧ (b.build { files := t }).1.isOk = true ∧
        t.content? template = some (Utf8.ofString "\x7b# to be written #\x7dindex") ∧
        (b.build { files := t }).2.files.content? template = some (Utf8.ofString "index")) := by
  refine ⟨?_, ?_, ?_, ?_⟩
  · intro b t l
    refine ⟨noLink_of_entries (by decide), by decide +kernel, fun n h => ?_, by decide,
      fun n m h => ?_, by decide, by decide +kernel⟩
    · exact absurd (List.cons.inj h).2 (by decide)
    · exact absurd (List.cons.inj h).2.symm (List.cons_ne_nil _ _)
  · exact ⟨noLink_of_entries (by decide), by decide +kernel, by decide +kernel, by decide +kernel⟩
  · exact ⟨noLink_of_entries (by decide), by decide +kernel, by decide +kernel, by decide +kernel⟩
  · exact ⟨noLink_of_entries (by decide), by decide +kernel, by decide +kernel, by decide +kernel⟩

end LiterateSite.Site
