import LiterateSite.Proofs.Files.Added
import LiterateSite.Proofs.Site.Manifest

/-!
# What is no example

The examples are the directories in the examples directory. Here one more entry comes to be there
that is no directory and leads to none.

* `leadsTo`, `entryAt_skipped`, `entryAt_unfollowable`: what such an entry is for the catalog.
  `entryAt_gains`: **what was there is the same with it.**
* `idsAmong_append`, `idsAmong_of_entryAt`: the ids among the names of a list, part by part, and in
  another tree.
* `directoryIds_skip`, `directoryIds_unfollowable`: **the new entry is skipped with an event, or no
  ids are found.**
* `catalog_of_bystander`: so the catalog is the same one if the entry is a file or leads to
  something, and there is none if it is a link that leads nowhere.
* `link_to_nothing`: such a link.
-/

namespace LiterateSite.Site

open Files Files.Tree Text

variable {t t' : Tree} {directory : Path} {root : Location} {n : Name} {e x : Files.Entry}
  {names before after : List Name} {ids : List String} {events : List Event} {layout : Layout}

/-- What a link in a directory leads to. -/
def leadsTo (t : Tree) (root : Location) (n : Name) : Option Files.Entry :=
  (t.walk true maxLinks root [.name n]).toOption.bind t.get?

/-! ## What an entry is -/

/-- A file, and a link that leads to something but a directory, are looked at and skipped. -/
theorem entryAt_skipped (hg : t.get? (n :: root) = some e) (he : e ≠ .directory)
    (hl : ∀ target, e = .link target → ∃ x, leadsTo t root n = some x ∧ x ≠ .directory) :
    ∃ x, entryAt t directory root n = .ok x ∧ x ≠ .directory := by
  unfold entryAt
  rw [hg]
  cases e with
  | directory => exact absurd rfl he
  | file content => exact ⟨_, rfl, he⟩
  | link target =>
    obtain ⟨x, hx, hne⟩ := hl target rfl
    unfold leadsTo at hx
    obtain ⟨l, hw, hget⟩ := Option.bind_eq_some_iff.1 hx
    simp only [toOption_eq_some.1 hw, hget]
    cases x with
    | directory => exact absurd rfl hne
    | file content => exact ⟨_, rfl, hne⟩
    | link target => exact ⟨_, rfl, hne⟩

/-- A link that leads nowhere is an error. -/
theorem entryAt_unfollowable {target : List Char} (hg : t.get? (n :: root) = some (.link target))
    (hl : leadsTo t root n = none) :
    ∃ cause, entryAt t directory root n =
      .error (.badEntry (directory.join ⟨n.toText⟩) cause) := by
  unfold entryAt
  rw [hg]
  unfold leadsTo at hl
  cases hw : t.walk true maxLinks root [.name n] with
  | error err => exact ⟨err, rfl⟩
  | ok l =>
    rw [hw] at hl
    have hget : t.get? l = none := hl
    exact ⟨.notFound, by simp only [hget]⟩

/-- **What was there** is the same with one more entry. -/
theorem entryAt_gains {l : Location} (h : Gains l e t t') (he : e ≠ .directory)
    (hx : entryAt t directory root n = .ok x) : entryAt t' directory root n = .ok x := by
  unfold entryAt at hx ⊢
  cases hg : t.get? (n :: root) with
  | none => simp [hg] at hx
  | some y =>
    rw [hg] at hx
    rw [h.get?_of_some hg]
    cases y with
    | directory => exact hx
    | file content => exact hx
    | link target =>
      -- an entry was found, so the link led to something, and it does so still
      cases hw : t.walk true maxLinks root [.name n] with
      | error err => simp [hw] at hx
      | ok k =>
        cases hk : t.get? k with
        | none => simp [hw, hk] at hx
        | some z =>
          simp only [hw, hk] at hx
          simp only [h.walk he hw hk, h.get?_of_some hk]
          exact hx

/-! ## The ids among names -/

/-- **The names of a list part by part**, as long as ids are found. -/
theorem idsAmong_append (before : List Name) : ∀ {ids : List String},
    (idsAmong t directory root before).2 = .ok ids → ∀ after,
      idsAmong t directory root (before ++ after) =
        ((idsAmong t directory root before).1 ++ (idsAmong t directory root after).1,
          (idsAmong t directory root after).2.map (ids ++ ·)) := by
  induction before with
  | nil =>
    intro ids h after
    cases h
    rw [List.nil_append]
    cases hr : (idsAmong t directory root after).2 <;> exact Prod.ext rfl hr
  | cons n rest ih =>
    intro ids h after
    rcases idsAmong_cons_ok h with ⟨chars, more, rfl, he, hrest, rfl⟩ | ⟨x, he, hx, hrest⟩
    · rw [List.cons_append, idsAmong_directory he, idsAmong_directory he, ih hrest after]
      cases (idsAmong t directory root after).2 <;> rfl
    · rw [List.cons_append, idsAmong_skip he hx, idsAmong_skip he hx, ih hrest after,
        List.cons_append]

/-- Where ids are found among all names, they are found in each part. -/
theorem idsAmong_append_ok (before : List Name) : ∀ {ids : List String},
    (idsAmong t directory root (before ++ after)).2 = .ok ids →
      ∃ ids₁ ids₂, (idsAmong t directory root before).2 = .ok ids₁ ∧
        (idsAmong t directory root after).2 = .ok ids₂ ∧ ids = ids₁ ++ ids₂ := by
  induction before with
  | nil => intro ids h; exact ⟨[], ids, rfl, h, rfl⟩
  | cons n rest ih =>
    intro ids h
    rcases idsAmong_cons_ok h with ⟨chars, more, rfl, he, hrest, rfl⟩ | ⟨x, he, hx, hrest⟩
    · obtain ⟨ids₁, ids₂, h₁, h₂, rfl⟩ := ih hrest
      refine ⟨String.ofList chars :: ids₁, ids₂, ?_, h₂, rfl⟩
      rw [idsAmong_directory he, h₁]
      rfl
    · obtain ⟨ids₁, ids₂, h₁, h₂, rfl⟩ := ih hrest
      refine ⟨ids₁, ids₂, ?_, h₂, rfl⟩
      rw [idsAmong_skip he hx]
      exact h₁

/-- In a tree where the entries are the same, the ids are, too. -/
theorem idsAmong_of_entryAt
    (h : ∀ n x, entryAt t directory root n = .ok x → entryAt t' directory root n = .ok x)
    (names : List Name) : ∀ {ids : List String}, (idsAmong t directory root names).2 = .ok ids →
      idsAmong t' directory root names = idsAmong t directory root names := by
  induction names with
  | nil => intro ids _; rfl
  | cons n rest ih =>
    intro ids hids
    rcases idsAmong_cons_ok hids with ⟨chars, more, rfl, he, hrest, -⟩ | ⟨x, he, hx, hrest⟩
    · rw [idsAmong_directory he, idsAmong_directory (h _ _ he), ih hrest]
    · rw [idsAmong_skip he hx, idsAmong_skip (h _ _ he) hx, ih hrest]

/-! ## One more entry in the examples directory -/

/-- The parts of the ids in front of the new entry and after it. -/
theorem directoryIds_parts (h : Gains (n :: root) e t t') (he : e ≠ .directory)
    (hr : t.resolve directory = .ok root) (hd : t.get? root = some .directory)
    (hids : (directoryIds t directory).2 = .ok ids) :
    ∃ before after ids₁ ids₂,
      directoryIds t' directory = idsAmong t' directory root (before ++ n :: after) ∧
      (directoryIds t directory).1 = (idsAmong t directory root before).1 ++
        (idsAmong t directory root after).1 ∧
      idsAmong t' directory root before = ((idsAmong t directory root before).1, .ok ids₁) ∧
      idsAmong t' directory root after = ((idsAmong t directory root after).1, .ok ids₂) ∧
      ids = ids₁ ++ ids₂ := by
  obtain ⟨before, after, hnames, hnames'⟩ := h.names
  have hdir : directoryIds t directory = idsAmong t directory root (before ++ after) := by
    unfold directoryIds
    rw [hr, ← hnames]
  have hdir' : directoryIds t' directory = idsAmong t' directory root (before ++ n :: after) := by
    unfold directoryIds
    rw [h.resolve he hr hd, ← hnames']
  rw [hdir] at hids ⊢
  obtain ⟨ids₁, ids₂, h₁, h₂, rfl⟩ := idsAmong_append_ok before hids
  have hsame : ∀ m x, entryAt t directory root m = .ok x → entryAt t' directory root m = .ok x :=
    fun m x => entryAt_gains h he
  refine ⟨before, after, ids₁, ids₂, hdir', ?_, ?_, ?_, rfl⟩
  · rw [idsAmong_append before h₁]
  · rw [idsAmong_of_entryAt hsame before h₁]
    exact Prod.ext rfl h₁
  · rw [idsAmong_of_entryAt hsame after h₂]
    exact Prod.ext rfl h₂

/-- **An entry that is skipped** adds an event, and the ids stay as they are. -/
theorem directoryIds_skip (h : Gains (n :: root) e t t') (he : e ≠ .directory)
    (hr : t.resolve directory = .ok root) (hd : t.get? root = some .directory)
    (hids : directoryIds t directory = (events, .ok ids))
    (hn : ∃ x, entryAt t' directory root n = .ok x ∧ x ≠ .directory) :
    ∃ first last, events = first ++ last ∧ directoryIds t' directory =
      (first ++ .skippingNonDirectory (directory.join ⟨n.toText⟩) :: last, .ok ids) := by
  obtain ⟨before, after, ids₁, ids₂, hdir', hevents, h₁, h₂, rfl⟩ :=
    directoryIds_parts h he hr hd (congrArg Prod.snd hids)
  obtain ⟨x, hx, hne⟩ := hn
  refine ⟨(idsAmong t directory root before).1, (idsAmong t directory root after).1, ?_, ?_⟩
  · rw [← hevents, hids]
  · rw [hdir', idsAmong_append before (congrArg Prod.snd h₁), idsAmong_skip hx hne, h₁, h₂]
    rfl

/-- **An entry that cannot be looked at** leaves no ids. -/
theorem directoryIds_unfollowable (h : Gains (n :: root) e t t') (he : e ≠ .directory)
    (hr : t.resolve directory = .ok root) (hd : t.get? root = some .directory)
    (hids : (directoryIds t directory).2 = .ok ids) {err : IoError}
    (hn : entryAt t' directory root n = .error err) :
    (directoryIds t' directory).2 = .error (.io directory err) := by
  obtain ⟨before, after, ids₁, ids₂, hdir', -, h₁, -, -⟩ := directoryIds_parts h he hr hd hids
  rw [hdir', idsAmong_append before (congrArg Prod.snd h₁), idsAmong_error hn]
  rfl

/-! ## The catalog -/

/-- The manifest reads as before. -/
theorem orderedIds_gains {l : Location} (h : Gains l e t t') (he : e ≠ .directory)
    {found : List String} (hids : orderedIds t layout found = .ok ids) :
    orderedIds t' layout found = .ok ids := by
  cases hm : layout.manifest with
  | none =>
    unfold orderedIds at hids ⊢
    rwa [hm] at hids ⊢
  | some m =>
    obtain ⟨text, htext, hlisted⟩ := (orderedIds_eq_ok hm).1 hids
    exact (orderedIds_eq_ok hm).2 ⟨text, h.readText he htext, hlisted⟩

variable {s s' : Session} {entries : List Entry}

/-- **An entry that is no directory and leads to none.** The examples are the same with it if it is
a file, or a link that leads to something. A link that leads nowhere leaves no catalog: the
directory cannot be listed. -/
theorem catalog_of_bystander (h : Gains (n :: root) e s.files s'.files)
    (hroot : s.files.resolve layout.examples = .ok root)
    (hrun : (catalog layout s).1 = .ok entries) (he : e ≠ .directory)
    (hlink : ∀ target, e = .link target → leadsTo s'.files root n ≠ some .directory) :
    ((∀ target, e = .link target → leadsTo s'.files root n ≠ none) →
      (catalog layout s').1 = .ok entries) ∧
    (∀ target, e = .link target → leadsTo s'.files root n = none →
      ∃ cause, (catalog layout s').1 = .error (.io layout.examples
        (.badEntry (layout.examples.join ⟨n.toText⟩) cause))) := by
  -- the ids of the old tree, and the directory that they are in
  have hold : catalog layout s = (.ok entries, (catalog layout s).2) := Prod.ext hrun rfl
  have hids := catalog_eq_ok hold
  rw [catalog_result, hids] at hrun
  obtain ⟨hdir, found, hfound, hordered⟩ := enumeratedIds_eq_ok.1 hids
  have hd : s.files.get? root = some .directory := by
    obtain ⟨l, hl, hget⟩ := isDir_iff.1 hdir
    cases hl.symm.trans (toOption_eq_some.2 hroot)
    exact hget
  have hdir' : s'.files.isDir layout.examples = true := h.isDir he hdir
  rw [catalog_result]
  refine ⟨fun hsome => ?_, fun target ht hnone => ?_⟩
  · have hskip : ∃ x, entryAt s'.files layout.examples root n = .ok x ∧ x ≠ .directory := by
      refine entryAt_skipped h.get?_self he fun target ht => ?_
      obtain ⟨x, hx⟩ := Option.ne_none_iff_exists'.1 (hsome target ht)
      exact ⟨x, hx, fun hxd => hlink target ht (hxd ▸ hx)⟩
    obtain ⟨_, _, -, hnew⟩ := directoryIds_skip h he hroot hd (Prod.ext rfl hfound) hskip
    have hids' : enumeratedIds layout s'.files = .ok (entries.map Entry.id) :=
      enumeratedIds_eq_ok.2 ⟨hdir', found, congrArg Prod.snd hnew, orderedIds_gains h he hordered⟩
    rw [hids']
    exact hrun
  · obtain ⟨cause, herr⟩ := entryAt_unfollowable (ht ▸ h.get?_self) hnone
    have hnew := directoryIds_unfollowable h he hroot hd hfound herr
    refine ⟨cause, ?_⟩
    unfold enumeratedIds
    rw [if_pos hdir', hnew]
    rfl

/-- A link beside two examples. -/
def linkBeside (target : String) : Tree :=
  (twoExamples "b\na\n").insert [.text ['x'], .text "examples".toList] (.link target.toList)

/-- A link to the manifest is skipped. -/
theorem catalog_of_bystander_link : ∃ entries, entries.map Entry.id = ["b", "a"] ∧
    (catalog { manifest := some (Path.ofString "order.txt") }
      { files := twoExamples "b\na\n" }).1 = .ok entries ∧
    (catalog { manifest := some (Path.ofString "order.txt") }
      { files := linkBeside "../order.txt" }).1 = .ok entries := by
  let s : Session := { files := twoExamples "b\na\n" }
  let s' : Session := { files := linkBeside "../order.txt" }
  let layout : Layout := { manifest := some (Path.ofString "order.txt") }
  have hids : enumeratedIds layout s.files = .ok ["b", "a"] := by decide +kernel
  have hrun : (catalog layout s).1 = .ok (entriesOf layout ["b", "a"]) :=
    (catalog_of_enumerated hids).1
  have hfile : leadsTo s'.files [.text "examples".toList] (.text ['x']) =
      some (.file (Utf8.ofString "b\na\n")) := by decide +kernel
  refine ⟨_, Layout.ids_entriesOf _, hrun, ?_⟩
  refine (@catalog_of_bystander [.text "examples".toList] (.text ['x']) _ layout s s' _
    (gains_insert (by decide +kernel) _) (by decide +kernel) hrun (by decide) ?_).1 ?_
  · intro target _
    rw [hfile]
    decide
  · intro target _
    rw [hfile]
    decide

/-- **A link that leads nowhere** beside two examples: the directory cannot be listed any more. -/
theorem link_to_nothing :
    Gains [.text ['x'], .text "examples".toList] (.link "nowhere".toList)
        (twoExamples "b\na\n") (linkBeside "nowhere") ∧
      leadsTo (linkBeside "nowhere") [.text "examples".toList] (.text ['x']) = none ∧
      (catalog {} { files := twoExamples "b\na\n" }).1.map (List.map Entry.id) = .ok ["a", "b"] ∧
      (catalog {} { files := linkBeside "nowhere" }).1.map (List.map Entry.id) =
        .error (.io (Path.ofString "examples")
          (.badEntry (Path.ofString "examples/x") .notFound)) := by
  refine ⟨gains_insert ?_ _, ?_, ?_, ?_⟩
  · decide +kernel
  · decide +kernel
  · decide +kernel
  · decide +kernel

end LiterateSite.Site
