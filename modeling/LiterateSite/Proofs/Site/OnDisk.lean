import LiterateSite.Proofs.Files.Links
import LiterateSite.Proofs.Site.Incremental
import LiterateSite.Proofs.Site.Manifest
import LiterateSite.Proofs.Site.Pages

/-!
# The pages that a build leaves

* `keptTargets`, `outputNames`: the places of kept files, and the names of the pages and the index.
* `Separate`: **no two of these files are one file.** `separate_of_noLink`: without links, output
  and examples in different directories will do.
* `Ensured.stays`: **a call for a transcript changes kept files only**, and it runs its example as
  its status says.
* `Separate.written`, `Makes.stays`, `MakesAll.stays`: **a page that has been made stays as it is**
  while others are made.
* `Built.begun`: what there is before the pages are made.
* `pages_on_disk`: **after a build that has succeeded all pages are there**, the index is, too, and
  the numbers are right.
* `LosesPage`, `index_in_place_of_page`: builds that succeed and lose a page.
-/

namespace LiterateSite.Site

open Files Files.Tree Text

/-- The places that the paths of kept files lead to, whether a link at the end is followed or not.
-/
def keptTargets (layout : Layout) (ids : List String) (t : Tree) : Set Location :=
  {l | ∃ id ∈ ids, ∃ k follow, t.place? (layout.keptOf id k) follow = some l}

/-- The names of the index and of the pages. -/
def outputNames (ids : List String) : Set String :=
  {n | n = "index.html" ∨ ∃ id ∈ ids, n = id ++ ".html"}

/-- **No two of the files that a build leaves are one file.** The paths of the index and of the
pages lead to different places; they are not those of kept files, and not reached over them. -/
structure Separate (b : Builder) (ids : List String) (t : Tree) : Prop where
  clear : ∀ n ∈ outputNames ids, Clear (keptTargets b.layout ids t) t (b.outputPath n)
  apart : ∀ n ∈ outputNames ids, ∀ l, t.place? (b.outputPath n) = some l →
    l ∉ keptTargets b.layout ids t
  parted : ∀ n ∈ outputNames ids, ∀ m ∈ outputNames ids, n ≠ m →
    t.Parted (b.outputPath n) (b.outputPath m)

variable {b : Builder} {theme : Highlight.Theme} {ids : List String} {id : String} {e : Entry}
  {runner : Runner} {source : List UInt8} {K : Set Location} {t u v : Tree} {s mid s' : Session}
  {p : MadePage} {pages : List MadePage} {n m : String}

/-! ## Separate files -/

theorem page_inj {id id' : String} (h : id ++ ".html" = id' ++ ".html") : id = id' := by
  have hl := congrArg String.toList h
  rw [String.toList_append, String.toList_append, List.append_cancel_right_eq] at hl
  exact String.toList_inj.1 hl

theorem page_mem (h : id ∈ ids) : id ++ ".html" ∈ outputNames ids := .inr ⟨id, h, rfl⟩

theorem index_mem : "index.html" ∈ outputNames ids := .inl rfl

theorem plainName_output (hp : ∀ id ∈ ids, Path.PlainName id.toList) (h : n ∈ outputNames ids) :
    Path.PlainName n.toList := by
  rcases h with rfl | ⟨id, hid, rfl⟩
  · decide
  · exact plainName_page (hp id hid)

/-- **Without links** the files are separate if the output directory is none of the examples. -/
theorem separate_of_noLink (hno : ∀ l, t.NoLink l) (hp : ∀ id ∈ ids, Path.PlainName id.toList)
    (hout : ∀ id ∈ ids, b.config.output.goal t.workDir ≠ b.layout.home t.workDir id) :
    Separate b ids t := by
  -- a path leads to its goal, and the goals are told apart by their names
  have hgoal : ∀ n ∈ outputNames ids, ∀ l, t.place? (b.outputPath n) = some l →
      l = .text n.toList :: b.config.output.goal t.workDir := by
    intro n hn l hl
    rw [place?_goal (fun k _ => hno k) hl]
    exact Path.goal_join_plain (plainName_output hp hn)
  refine ⟨fun n _ => clear_of_noLink (fun l _ => hno l) _, fun n hn l hl hk => ?_,
    fun n hn m hm hne l hl hl' => ?_⟩
  · obtain ⟨id, hid, k, follow, hk⟩ := hk
    have hkept := place?_goal (fun k _ => hno k) hk
    rw [Layout.goal_keptOf (hp id hid), hgoal n hn l hl] at hkept
    exact hout id hid (List.cons.inj hkept).2
  · have hsame := (hgoal n hn l hl).symm.trans (hgoal m hm l hl')
    exact hne (String.toList_inj.1 (Name.text.inj (List.cons.inj hsame).1))

/-- **A file of the output that is written** gets its content, and the others keep theirs. -/
theorem Separate.written (h : Separate b ids t) (hr : Rooted t)
    (hp : Pruned (keptTargets b.layout ids t) t u) (hn : n ∈ outputNames ids) {content : List UInt8}
    (hw : u.write (b.outputPath n) content = .ok v) :
    Pruned (keptTargets b.layout ids t) t v ∧ v.content? (b.outputPath n) = some content ∧
      ∀ m ∈ outputNames ids, m ≠ n →
        v.content? (b.outputPath m) = u.content? (b.outputPath m) := by
  obtain ⟨l, hl, hv, hag, hfile⟩ := hp.of_write hr hw
  rw [h.clear n hn u hp] at hl
  refine ⟨hv, ?_, fun m hm hne => ?_⟩
  · have hplace : v.place? (b.outputPath n) = some l := (h.clear n hn v hv).trans hl
    rw [content?_of_place hplace, fileAt?_eq_some]
    exact hfile
  · refine content?_of_clear (h.clear m hm) hp hv (fun k hk => ?_) hag
    rintro rfl
    exact h.parted m hm n hn hne k hk hl

/-! ## Calls -/

theorem pruned_removeIfThere {q : Path} (h : Pruned K t u)
    (hk : ∀ l, t.place? q false = some l → l ∈ K) (hu : removeIfThere u q = .ok v) :
    Pruned K t v ∧ AgreeOff K u v := by
  unfold removeIfThere at hu
  split at hu
  · cases hu
    exact ⟨h, .refl _ _⟩
  · exact h.of_unlink hk hu

/-- **A call for a transcript changes kept files only.** -/
theorem Ensured.stays {x : Transcript} (h : Ensured runner e source s (.ok x) s') (hr : Rooted t)
    (hp : Pruned K t s.files)
    (hk : ∀ k follow l, t.place? (e.kept k) follow = some l → l ∈ K)
    (hf : ∀ t p, (runner.run t p).files = t) :
    Pruned K t s'.files ∧ AgreeOff K s.files s'.files := by
  have hwrite : ∀ {u v : Tree} {k : Kept} {content : List UInt8}, Pruned K t u →
      u.write (e.kept k) content = .ok v → Pruned K t v ∧ AgreeOff K u v := by
    intro u v k content hu hw
    obtain ⟨l, hl, hv, hag, -⟩ := hu.of_write hr hw
    have hin := hu.place?_mem (fun l => hk k true l) hl
    exact ⟨hv, hag.mono (Set.singleton_subset_iff.2 hin)⟩
  cases h with
  | hit hl => exact ⟨hp, .refl _ _⟩
  | renewed hs hl h =>
    cases h with
    | done hd ho hx hh =>
      rw [hf] at hx
      obtain ⟨h₁, a₁⟩ := pruned_removeIfThere hp (fun l => hk .digest false l) hd
      obtain ⟨h₂, a₂⟩ := hwrite (k := .transcript) h₁ hx
      obtain ⟨h₃, a₃⟩ := hwrite (k := .digest) h₂ hh
      exact ⟨h₃, (a₁.trans a₂).trans a₃⟩

/-! ## Pages -/

/-- The kept files of an entry are among those of the ids. -/
theorem kept_mem_targets (he : e ∈ entriesOf b.layout ids) (k : Kept) (follow : Bool) (l : Location)
    (hl : t.place? (e.kept k) follow = some l) : l ∈ keptTargets b.layout ids t :=
  ⟨e.id, Layout.id_mem he, k, follow, Layout.kept_eq he k ▸ hl⟩

section pages

variable (h : Separate b ids t) (hr : Rooted t) (hf : ∀ t p, (b.runner.run t p).files = t)

include h hr hf

/-- **Making a page** leaves the other ones as they are. -/
theorem Makes.stays (hm : Makes b theme p s mid s')
    (hp : Pruned (keptTargets b.layout ids t) t s.files) (he : p.entry ∈ entriesOf b.layout ids) :
    Pruned (keptTargets b.layout ids t) t s'.files ∧
      s'.files.content? (b.outputPath p.name) = some (Utf8.encode p.html) ∧
      ∀ n ∈ outputNames ids, n ≠ p.name →
        s'.files.content? (b.outputPath n) = s.files.content? (b.outputPath n) := by
  obtain ⟨hmid, hag⟩ := (ensured hm.answered).stays hr hp (kept_mem_targets he) hf
  obtain ⟨hs', hhere, hothers⟩ := h.written hr hmid (page_mem (Layout.id_mem he)) hm.written
  refine ⟨hs', hhere, fun n hn hne => ?_⟩
  -- no kept file is a page, so the call has left the pages alone
  exact (hothers n hn hne).trans (content?_of_clear (h.clear n hn) hp hmid (h.apart n hn) hag)

/-- **Pages that are made one after the other** are all there in the end, if no two have the same
name. -/
theorem MakesAll.stays (hm : MakesAll b theme s pages s')
    (hp : Pruned (keptTargets b.layout ids t) t s.files)
    (he : ∀ p ∈ pages, p.entry ∈ entriesOf b.layout ids)
    (hn : (pages.map MadePage.name).Nodup) :
    Pruned (keptTargets b.layout ids t) t s'.files ∧
      (∀ p ∈ pages, s'.files.content? (b.outputPath p.name) = some (Utf8.encode p.html)) ∧
      (∀ n ∈ outputNames ids, n ∉ pages.map MadePage.name →
        s'.files.content? (b.outputPath n) = s.files.content? (b.outputPath n)) ∧
      s'.runs = s.runs ++
        (pages.filter fun p => p.transcript.status.executed).map fun p => p.entry.source := by
  induction hm with
  | nil =>
    exact ⟨hp, fun p hp => absurd hp List.not_mem_nil, fun _ _ _ => rfl,
      (@MakesAll.nil b theme _).runs⟩
  | @cons p rest s mid s₁ s' hpage hlater ih =>
    obtain ⟨hnot, hrest⟩ := List.nodup_cons.1 hn
    obtain ⟨h₁, hhere, hothers⟩ := hpage.stays h hr hf hp (he p List.mem_cons_self)
    obtain ⟨h₂, hpages, hkeep, -⟩ :=
      ih h₁ (fun q hq => he q (List.mem_cons_of_mem _ hq)) hrest
    refine ⟨h₂, fun q hq => ?_, fun n hn hnin => ?_, (MakesAll.cons hpage hlater).runs⟩
    · rcases List.mem_cons.1 hq with rfl | hq
      · -- the pages after this one have other names
        have hmem := page_mem (Layout.id_mem (he q List.mem_cons_self))
        exact (hkeep q.name hmem hnot).trans hhere
      · exact hpages q hq
    · rw [List.map_cons, List.mem_cons, not_or] at hnin
      exact (hkeep n hn hnin.2).trans (hothers n hn hnin.1)

end pages

/-- The ids of the pages of a catalog. -/
theorem page_ids (he : pages.map MadePage.entry = entriesOf b.layout ids) :
    pages.map (·.entry.id) = ids := by
  have hids := congrArg (List.map Entry.id) he
  rwa [Layout.ids_entriesOf, List.map_map] at hids

/-- The entries of a catalog have different pages. -/
theorem names_nodup_of_entries (hn : ids.Nodup)
    (he : pages.map MadePage.entry = entriesOf b.layout ids) :
    (pages.map MadePage.name).Nodup ∧ ∀ p ∈ pages, p.entry ∈ entriesOf b.layout ids := by
  refine ⟨?_, fun p hp => he ▸ List.mem_map_of_mem hp⟩
  have hname : pages.map MadePage.name = ids.map (· ++ ".html") := by
    rw [← page_ids he, List.map_map]
    rfl
  rw [hname]
  exact hn.map fun _ _ => page_inj

/-- **The beginning of a build**: the examples are listed, the output directory is there, and the
style sheets have been written. -/
theorem Built.begun {r : BuildResult} {entries : List Entry} {html : List Char}
    {start last : Session} (hb : Built b s r s' theme entries pages html start last)
    (hids : enumeratedIds b.layout s.files = .ok ids) (hr : s.files.Rooted) :
    entries = entriesOf b.layout ids ∧
      Pruned K (s.files.createDirAll b.config.output).1 start.files ∧ start.runs = s.runs := by
  obtain ⟨hcatalog, hfiles, hruns⟩ := catalog_of_enumerated hids
  obtain ⟨-, hsheets, code, u, -, hsite, hcode⟩ := of_takeTemplates hb.sheets
  have hroot : Rooted (s.files.createDirAll b.config.output).1 := hr.createDirAll _
  simp only [show (Site.catalog b.config.toLayout s).2.files = s.files from hfiles] at hsite
  obtain ⟨-, -, hu, -⟩ := (Pruned.refl K _).of_write hroot hsite
  obtain ⟨-, -, hstart, -⟩ := hu.of_write hroot hcode
  exact ⟨Except.ok.inj (hb.catalog.symm.trans hcatalog), hstart, hsheets.trans hruns⟩

/-- **After a build that has succeeded all pages are there.** There is no manifest, the runner
touches no file, and no two of the files that are left are one file. Then each example has been made
a page, which is there as it was rendered, unless the example goes by the name of the index; the
index shows all examples in their order, and is there, too; there are as many pages as examples, and
those that were not cached have been run, once each. -/
theorem pages_on_disk {r : BuildResult} (hm : b.config.manifest = none)
    (hf : ∀ t p, (b.runner.run t p).files = t) (hd : s.files.Distinct) (hr : s.files.Rooted)
    (hids : enumeratedIds b.layout s.files = .ok ids)
    (hsep : Separate b ids (s.files.createDirAll b.config.output).1)
    (h : b.build s = (.ok r, s')) :
    (ids.Nodup ∧ ∀ id, id ∈ ids ↔ IsSubdirectory s.files b.config.examples id) ∧
      ∃ theme pages html start last,
        Built b s r s' theme (entriesOf b.layout ids) pages html start last ∧
        (∀ p ∈ pages, p.entry.id ≠ "index" →
          s'.files.read (b.outputPath p.name) = .ok (Utf8.encode p.html)) ∧
        s'.files.read (b.outputPath "index.html") = .ok (Utf8.encode html) ∧
        r.pages = ids.length ∧ r.pages = r.executed + r.cached ∧
        s'.runs = s.runs ++
          (pages.filter fun p => p.transcript.status.executed).map (fun p => p.entry.source) ∧
        s'.runs.length = s.runs.length + r.executed := by
  have hexamples : ids.Nodup ∧ ∀ id, id ∈ ids ↔ IsSubdirectory s.files b.config.examples id :=
    ids_without_manifest hd hm hids
  refine ⟨hexamples, ?_⟩
  obtain ⟨theme, entries, pages, html, start, last, hb⟩ := of_build h
  -- the tree with the output directory is the one that all later ones are compared with
  have hroot : Rooted (s.files.createDirAll b.config.output).1 := hr.createDirAll _
  obtain ⟨rfl, hstart, hruns₁⟩ := hb.begun hids hr
  obtain ⟨hnames, hmem⟩ := names_nodup_of_entries hexamples.1 hb.entries_eq
  obtain ⟨hlast, hpages, -, hruns₂⟩ := hb.pages_made.stays hsep hroot hf hstart hmem hnames
  obtain ⟨-, hindex, hkeep⟩ := hsep.written hroot hlast index_mem hb.index_written
  have hruns : s'.runs = s.runs ++
      (pages.filter fun p => p.transcript.status.executed).map fun p => p.entry.source := by
    rw [hb.runs, hruns₂, hruns₁]
  have hlen : pages.length = ids.length := by
    rw [← List.length_map MadePage.entry, hb.entries_eq, Layout.length_entriesOf]
  have hcount : pages.countP (fun p => p.transcript.status.executed) ≤ pages.length :=
    List.countP_le_length
  refine ⟨theme, pages, html, start, last, hb, fun p hp hne => ?_, read_eq_ok.2 hindex, ?_, ?_,
    hruns, ?_⟩
  · -- of the pages only the one of an example named like the index would be lost to it
    rw [read_eq_ok, hkeep p.name (page_mem (Layout.id_mem (hmem p hp))) fun he => hne ?_]
    · exact hpages p hp
    · exact page_inj he
  · rw [hb.result, Layout.length_entriesOf]
  · rw [hb.result]
    simp only [Layout.length_entriesOf]
    omega
  · rw [hruns, hb.result, List.length_append, List.length_map, List.countP_eq_length_filter]

/-- A site of one example whose page and index are told apart. -/
def pageAndIndex (id : String) (more : List (Location × Files.Entry)) : Tree where
  entries := [(locationOf ["examples"], .directory), (locationOf ["examples", id], .directory),
    (locationOf ["examples", id, id ++ ".js"], .file []), (locationOf ["templates"], .directory),
    (locationOf ["templates", "example.html"], .file (Utf8.ofString "page")),
    (locationOf ["templates", "index.html"], .file (Utf8.ofString "index"))] ++ more

/-- The page and the index of a site of one example are both there. -/
theorem pages_on_disk_one :
    ∃ r s', oneExample.build { files := pageAndIndex "a" [] } = (.ok r, s') ∧ r.pages = 1 ∧
      s'.runs.length = r.executed ∧
      (∃ html, s'.files.read (oneExample.outputPath "a.html") = .ok (Utf8.encode html)) ∧
      ∃ html, s'.files.read (oneExample.outputPath "index.html") = .ok (Utf8.encode html) := by
  let s : Session := { files := pageAndIndex "a" [] }
  have hids : enumeratedIds oneExample.layout s.files = .ok ["a"] := by decide +kernel
  have hbuilt : (oneExample.build s).1.toOption.isSome = true := by decide +kernel
  obtain ⟨r, s', hbuild⟩ := Building.ok_of_isSome hbuilt
  have hrooted : s.files.Rooted := rooted_of_entries (by decide +kernel) (by decide +kernel)
  have hsep : Separate oneExample ["a"] (s.files.createDirAll oneExample.config.output).1 := by
    refine separate_of_noLink (noLink_of_entries (by decide +kernel)) (by decide) ?_
    decide +kernel
  obtain ⟨-, theme, pages, html, start, last, hb, hpages, hindex, hcount, -, -, hruns⟩ :=
    pages_on_disk rfl (fun _ _ => rfl) (by decide +kernel) hrooted hids hsep hbuild
  refine ⟨r, s', hbuild, hcount, hruns.trans (Nat.zero_add _), ?_, html, hindex⟩
  obtain ⟨p, hp, he⟩ : ∃ p ∈ pages, p.entry.id = "a" := by
    have hone : (pages.map MadePage.entry).map Entry.id = ["a"] := by
      rw [hb.entries_eq, Layout.ids_entriesOf]
    rw [List.map_map] at hone
    exact List.mem_map.1 (hone ▸ List.mem_singleton_self "a")
  have hread := hpages p hp (by rw [he]; decide)
  unfold MadePage.name at hread
  rw [he] at hread
  exact ⟨p.html, hread⟩

/-- A site whose templates are in its output directory. -/
def ownTemplates : Builder where
  config := { minify := false }
  templates := { oneExample.templates with directory := some (Path.ofString "public") }
  runner := echo
  highlighter := Highlight.Highlighter.plain

/-- A page that is written in place of its template: the one after it is still made of the template
that has been loaded. -/
example : (ownTemplates.build { files :=
      { entries := [(locationOf ["examples"], .directory),
          (locationOf ["examples", "example"], .directory),
          (locationOf ["examples", "example", "example.js"], .file []),
          (locationOf ["examples", "foo"], .directory),
          (locationOf ["examples", "foo", "foo.js"], .file []),
          (locationOf ["public"], .directory),
          (locationOf ["public", "example.html"], .file (Utf8.ofString "[\x7b\x7b id \x7d\x7d]")),
          (locationOf ["public", "index.html"], .file [])] } }).2.files.content?
      (ownTemplates.outputPath "foo.html") = some (Utf8.ofString "[foo]") := by
  decide +kernel

/-- A build succeeds and claims one page. The page was written, and in the end the index is in its
place. -/
def LosesPage (id : String) (t : Tree) : Prop :=
  let output := (t.createDirAll oneExample.config.output).1
  let path := oneExample.outputPath (id ++ ".html")
  (oneExample.build { files := t }).1.map BuildResult.pages = .ok 1 ∧
    (oneExample.buildExample Highlight.Theme.tokyonightNight (entryOf {} none id none)
      { files := output }).2.files.content? path = some (Utf8.ofString "page") ∧
    (oneExample.build { files := t }).2.files.content? path = some (Utf8.ofString "index")

/-- **Pages can be lost**: the one of an example that goes by the name of the index, and one whose
path is a link to the index. -/
theorem index_in_place_of_page :
    LosesPage "index" (pageAndIndex "index" []) ∧
      LosesPage "a" (pageAndIndex "a" [(locationOf ["public"], .directory),
        (locationOf ["public", "a.html"], .link "index.html".toList)]) := by
  refine ⟨⟨?_, ?_, ?_⟩, ⟨?_, ?_, ?_⟩⟩
  · decide +kernel
  · decide +kernel
  · decide +kernel
  · decide +kernel
  · decide +kernel
  · decide +kernel

end LiterateSite.Site
