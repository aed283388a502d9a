import Mathlib.Data.List.Perm.Subperm
import LiterateSite.Proofs.Files.Names
import LiterateSite.Proofs.Site.Places

/-!
# What a manifest does to the examples

* `IsSubdirectory`: the names of directories in a directory. Links are followed.
* `idsAmong_cons_ok`: **what one name contributes** to the ids that are found.
* `idsAmong_ok`, `directoryIds_ok`: **the ids that are found are these names, each once.**
* `enumeratedIds_eq_ok`, `ids_without_manifest`: how the ids of a tree come about.
* `manifest_reorders`: **a manifest that is accepted lists as many ids as there are examples; it
  reorders them exactly if it leaves none out**, or else exactly if its lines differ and all name
  examples.
* `manifest_with_repeated_line`: an accepted manifest that does not.
-/

namespace LiterateSite.Site

open Files Files.Tree Text

/-- The name of a directory in the directory at a path. -/
def IsSubdirectory (t : Tree) (directory : Path) (id : String) : Prop :=
  ∃ root, t.resolve directory = .ok root ∧ entryAt t directory root (.text id.toList) = .ok .directory

variable {t : Tree} {layout : Layout} {directory : Path} {root : Location} {n : Name}
  {x : Files.Entry} {ids listed : List String} {text : List Char} {m : Path}

/-! ## The ids that are found -/

theorem idsAmong_directory {chars : List Char}
    (h : entryAt t directory root (.text chars) = .ok .directory) (rest : List Name) :
    idsAmong t directory root (.text chars :: rest) = ((idsAmong t directory root rest).1,
      (idsAmong t directory root rest).2.map (String.ofList chars :: ·)) := by
  rw [idsAmong, h]

theorem idsAmong_skip (h : entryAt t directory root n = .ok x) (hx : x ≠ .directory)
    (rest : List Name) : idsAmong t directory root (n :: rest) =
      (.skippingNonDirectory (directory.join ⟨n.toText⟩) :: (idsAmong t directory root rest).1,
        (idsAmong t directory root rest).2) := by
  rw [idsAmong.eq_def]
  simp only [h]

theorem idsAmong_error {err : IoError} (h : entryAt t directory root n = .error err)
    (rest : List Name) :
    idsAmong t directory root (n :: rest) = ([], .error (.io directory err)) := by
  rw [idsAmong.eq_def]
  simp only [h]

/-- **What one name contributes**: the id of a directory, or nothing. -/
theorem idsAmong_cons_ok {rest : List Name}
    (h : (idsAmong t directory root (n :: rest)).2 = .ok ids) :
    (∃ chars more, n = .text chars ∧ entryAt t directory root (.text chars) = .ok .directory ∧
        (idsAmong t directory root rest).2 = .ok more ∧ ids = String.ofList chars :: more) ∨
      ∃ x, entryAt t directory root n = .ok x ∧ x ≠ .directory ∧
        (idsAmong t directory root rest).2 = .ok ids := by
  cases he : entryAt t directory root n with
  | error err =>
    rw [idsAmong_error he] at h
    cases h
  | ok x =>
    by_cases hx : x = .directory
    · subst hx
      cases n with
      | raw bytes =>
        rw [idsAmong, he] at h
        cases h
      | text chars =>
        rw [idsAmong_directory he] at h
        cases hrest : (idsAmong t directory root rest).2 with
        | error err => rw [hrest] at h; cases h
        | ok more =>
          rw [hrest] at h
          exact .inl ⟨chars, more, rfl, he, rfl, (Except.ok.inj h).symm⟩
    · rw [idsAmong_skip he hx] at h
      exact .inr ⟨x, rfl, hx, h⟩

/-- The names in a list that lead to directories are the ids among them. -/
theorem idsAmong_ok (names : List Name) : ∀ ids : List String,
    (idsAmong t directory root names).2 = .ok ids →
      ids.map (fun id => Name.text id.toList) =
        names.filter fun n => entryAt t directory root n = .ok .directory := by
  induction names with
  | nil =>
    intro ids h
    cases h
    rfl
  | cons n rest ih =>
    intro ids h
    rcases idsAmong_cons_ok h with ⟨chars, more, rfl, he, hrest, rfl⟩ | ⟨x, he, hx, hrest⟩
    · rw [List.filter_cons_of_pos (by simp [he]), List.map_cons, ih more hrest,
        String.toList_ofList]
    · rw [List.filter_cons_of_neg (by simp [he, hx])]
      exact ih ids hrest

/-- **The ids that are found** are the names of the directories, each once. -/
theorem directoryIds_ok (hd : t.Distinct) (h : (directoryIds t directory).2 = .ok ids) :
    ids.Nodup ∧ ∀ id, id ∈ ids ↔ IsSubdirectory t directory id := by
  unfold directoryIds at h
  cases hr : t.resolve directory with
  | error e => simp [hr] at h
  | ok root =>
    simp only [hr] at h
    have hids := idsAmong_ok (t.names root) ids h
    refine ⟨List.Nodup.of_map (fun id => Name.text id.toList) ?_, fun id => ?_⟩
    · rw [hids]
      exact (hd.names_nodup root).filter _
    · have hmem : id ∈ ids ↔ Name.text id.toList ∈ ids.map fun id => Name.text id.toList := by
        simp [List.mem_map, String.toList_inj]
      rw [hmem, hids, List.mem_filter, decide_eq_true_iff]
      unfold IsSubdirectory
      rw [hr]
      simp only [Except.ok.injEq, exists_eq_left']
      refine and_iff_right_of_imp fun he => mem_names.2 ?_
      -- what leads to a directory is there
      cases hg : t.get? (.text id.toList :: root) with
      | some e => rfl
      | none =>
        unfold entryAt at he
        simp [hg] at he

/-! ## The ids of a tree -/

theorem enumeratedIds_eq_ok : enumeratedIds layout t = .ok ids ↔
    t.isDir layout.examples = true ∧ ∃ found, (directoryIds t layout.examples).2 = .ok found ∧
      orderedIds t layout found = .ok ids := by
  unfold enumeratedIds
  split
  · next hd =>
    cases (directoryIds t layout.examples).2 with
    | error e => simp [hd, Except.bind]
    | ok found => simp [hd, Except.bind]
  · next hd => simp [hd]

/-- **Without a manifest** the ids are the names of the directories, each once. -/
theorem ids_without_manifest (hd : t.Distinct) (hm : layout.manifest = none)
    (h : enumeratedIds layout t = .ok ids) :
    ids.Nodup ∧ ∀ id, id ∈ ids ↔ IsSubdirectory t layout.examples id := by
  obtain ⟨-, found, hfound, hordered⟩ := enumeratedIds_eq_ok.1 h
  have hsame : found = ids := by
    unfold orderedIds at hordered
    rw [hm] at hordered
    exact Except.ok.inj hordered
  subst hsame
  exact directoryIds_ok hd hfound

/-- A manifest that is accepted lists as many ids as have been found. -/
theorem orderedIds_eq_ok (hm : layout.manifest = some m) {found : List String} :
    orderedIds t layout found = .ok ids ↔
      ∃ text, t.readText m = .ok text ∧ ids = manifestIds text ∧ ids.length = found.length := by
  unfold orderedIds
  rw [hm]
  simp only
  cases t.readText m with
  | error e => simp
  | ok text =>
    simp only [Except.ok.injEq, exists_eq_left']
    by_cases hlen : (manifestIds text).length = found.length
    · rw [if_pos (beq_iff_eq.2 hlen), Except.ok.injEq]
      exact ⟨fun h => ⟨h.symm, h ▸ hlen⟩, fun h => h.1.symm⟩
    · rw [if_neg (by simpa using hlen)]
      simp only [reduceCtorEq, false_iff, not_and]
      rintro rfl
      exact hlen

/-- **Lists of one length**, the second one without repetition: the first one is a rearrangement
exactly if it leaves nothing out. -/
theorem perm_iff_subset (hn : ids.Nodup) (hlen : listed.length = ids.length) :
    listed.Perm ids ↔ ids ⊆ listed :=
  ⟨fun h _ hid => h.mem_iff.2 hid,
    fun h => ((List.subperm_of_subset hn h).perm_of_length_le hlen.le).symm⟩

/-- Or else exactly if it repeats nothing and has nothing else. -/
theorem perm_iff_nodup (hn : ids.Nodup) (hlen : listed.length = ids.length) :
    listed.Perm ids ↔ listed.Nodup ∧ listed ⊆ ids :=
  ⟨fun h => ⟨h.nodup_iff.2 hn, fun _ hid => h.mem_iff.1 hid⟩,
    fun h => (List.subperm_of_subset h.1 h.2).perm_of_length_le hlen.ge⟩

/-! ## The catalog -/

variable {entries : List Entry} {s s' : Session}

/-- The catalog is made of the ids of the tree. -/
theorem catalog_result (layout : Layout) (s : Session) :
    (catalog layout s).1 = (enumeratedIds layout s.files).map (entriesOf layout) := by
  obtain ⟨s₁, -, hrun⟩ := catalog_run layout s
  rw [hrun]
  cases enumeratedIds layout s.files <;> rfl

/-- The catalog has the ids of the tree. -/
theorem catalog_eq_ok (h : catalog layout s = (.ok entries, s')) :
    enumeratedIds layout s.files = .ok (entries.map Entry.id) := by
  obtain ⟨s₁, -, hrun⟩ := catalog_run layout s
  rw [h] at hrun
  cases hids : enumeratedIds layout s.files with
  | error e => rw [hids] at hrun; cases hrun
  | ok ids =>
    rw [hids] at hrun
    cases hrun
    rw [Layout.ids_entriesOf]

/-- The ids of the tree are listed, and nothing else happens. -/
theorem catalog_of_enumerated (h : enumeratedIds layout s.files = .ok ids) :
    (catalog layout s).1 = .ok (entriesOf layout ids) ∧
      (catalog layout s).2.files = s.files ∧ (catalog layout s).2.runs = s.runs := by
  obtain ⟨s₁, hs₁, hrun⟩ := catalog_run layout s
  rw [h] at hrun
  rw [hrun]
  exact ⟨rfl, hs₁.files, hs₁.runs⟩

/-- **What an accepted manifest does.** Without it the examples are the directories, each once. With
it they are what its lines list, as many as there are directories. These ids are those of the
directories in another order exactly if no two lines are the same and each names a directory, and
also exactly if no directory is left out. -/
theorem manifest_reorders (hd : s.files.Distinct)
    (h : catalog { layout with manifest := some m } s = (.ok entries, s')) :
    let listed := entries.map Entry.id
    ∃ found text, (catalog { layout with manifest := none } s).1 = .ok found ∧
      (found.map Entry.id).Nodup ∧
      (∀ id, id ∈ found.map Entry.id ↔ IsSubdirectory s.files layout.examples id) ∧
      s.files.readText m = .ok text ∧ listed = manifestIds text ∧
      listed.length = found.length ∧
      (listed.Perm (found.map Entry.id) ↔
        listed.Nodup ∧ ∀ id ∈ listed, IsSubdirectory s.files layout.examples id) ∧
      (listed.Perm (found.map Entry.id) ↔
        ∀ id, IsSubdirectory s.files layout.examples id → id ∈ listed) := by
  intro listed
  obtain ⟨hdir, ids, hids, hordered⟩ := enumeratedIds_eq_ok.1 (catalog_eq_ok h)
  obtain ⟨text, htext, hlisted, hlen⟩ := (orderedIds_eq_ok rfl).1 hordered
  obtain ⟨hnodup, hmem⟩ := directoryIds_ok hd hids
  -- without the manifest the ids are those that are found
  have hnone : enumeratedIds { layout with manifest := none } s.files = .ok ids :=
    enumeratedIds_eq_ok.2 ⟨hdir, ids, hids, rfl⟩
  refine ⟨_, text, (catalog_of_enumerated hnone).1, ?_, ?_, htext, hlisted, ?_, ?_, ?_⟩
  · rw [Layout.ids_entriesOf]
    exact hnodup
  · rw [Layout.ids_entriesOf]
    exact hmem
  · rw [Layout.length_entriesOf]
    exact hlen
  · rw [Layout.ids_entriesOf, perm_iff_nodup hnodup hlen]
    simp only [List.subset_def, hmem]
    rfl
  · rw [Layout.ids_entriesOf, perm_iff_subset hnodup hlen]
    simp only [List.subset_def, hmem]
    rfl

/-- Two examples, and a manifest. -/
def twoExamples (manifest : String) : Tree where
  entries := [([.text "examples".toList], .directory),
    ([.text ['a'], .text "examples".toList], .directory),
    ([.text ['b'], .text "examples".toList], .directory),
    ([.text "order.txt".toList], .file (Utf8.ofString manifest))]

/-- A manifest that lists each of two examples. -/
theorem manifest_reorders_two :
    ∃ entries s' found,
      catalog { manifest := some (Path.ofString "order.txt") } { files := twoExamples "b\na\n" } =
        (.ok entries, s') ∧ entries.map Entry.id = ["b", "a"] ∧
      (catalog {} { files := twoExamples "b\na\n" }).1 = .ok found ∧
      (entries.map Entry.id).Perm (found.map Entry.id) := by
  let s : Session := { files := twoExamples "b\na\n" }
  let layout : Layout := { manifest := some (Path.ofString "order.txt") }
  have hids : enumeratedIds layout s.files = .ok ["b", "a"] := by decide +kernel
  have hrun : catalog layout s = (.ok (entriesOf layout ["b", "a"]), (catalog layout s).2) :=
    Prod.ext (catalog_of_enumerated hids).1 rfl
  have hlisted : (entriesOf layout ["b", "a"]).map Entry.id = ["b", "a"] :=
    Layout.ids_entriesOf _
  obtain ⟨found, text, hfound, -, -, -, -, -, hperm, -⟩ :=
    @manifest_reorders {} _ _ s _ (by decide +kernel) hrun
  refine ⟨_, _, found, hrun, hlisted, hfound, hperm.2 ?_⟩
  rw [hlisted]
  refine ⟨by decide, fun id hid => ⟨[.text "examples".toList], by decide +kernel, ?_⟩⟩
  have hdir : ∀ id ∈ ["b", "a"], entryAt s.files (Path.ofString "examples")
      [.text "examples".toList] (.text id.toList) = .ok .directory := by decide +kernel
  exact hdir id hid

/-- **A manifest that repeats a line** is accepted in place of one that lists all examples: one of
them is listed twice, and another one is left out. -/
theorem manifest_with_repeated_line :
    (twoExamples "a\na\n").Distinct ∧
      (catalog { manifest := some (Path.ofString "order.txt") }
        { files := twoExamples "a\na\n" }).1.map (List.map Entry.id) = .ok ["a", "a"] ∧
      (catalog {} { files := twoExamples "a\na\n" }).1.map (List.map Entry.id) = .ok ["a", "b"] ∧
      ¬ ["a", "a"].Nodup ∧ ¬ ["a", "a"].Perm ["a", "b"] := by
  refine ⟨?_, ?_, ?_, ?_, ?_⟩
  · decide +kernel
  · decide +kernel
  · decide +kernel
  · decide
  · decide

end LiterateSite.Site
