import LiterateSite.Proofs.Files.Grow
import LiterateSite.Proofs.Site.Refresh

/-!
# Where the files of a site are

* `Layout.sourceOf`, `Layout.keptOf`: the paths that belong to an id.
* `Layout.root`, `Layout.home`, `Layout.beside`: the places of the examples, of one of them, and of
  a file beside its source.
* `goal_sourceOf`, `goal_keptOf`, `way_sourceOf`, `way_keptOf`: the places that these paths lead
  to, and those on the way.
* `enumeratedIds`, `catalog_run`: the ids of a tree, and the catalog that is made of them.
* `enumeratedIds_congr`: **what the ids of a tree depend on.**
-/

namespace LiterateSite.Site

open Files Files.Tree

/-- What the name of a kept file ends in. -/
def Kept.suffix : Kept → String
  | .digest => "hash"
  | .transcript => "transcript"

namespace Layout

variable {layout : Layout} {id id' : String} {w l : Location} {k k' : Kept}

/-- The source of the example of an id. -/
def sourceOf (layout : Layout) (id : String) : Path := (entryOf layout none id none).source

/-- A file that is kept beside the source of the example of an id. -/
def keptOf (layout : Layout) (id : String) (k : Kept) : Path := (entryOf layout none id none).kept k

/-- The place of the examples; relative paths begin at `w`. -/
def root (layout : Layout) (w : Location) : Location := layout.examples.goal w

/-- The place of the example of an id. -/
def home (layout : Layout) (w : Location) (id : String) : Location :=
  .text id.toList :: layout.root w

/-! ## The entries of a list of ids -/

theorem mem_entriesFrom {e : Entry} {ids : List String} : ∀ {previous : Option String},
    e ∈ entriesFrom layout previous ids →
      ∃ before after, e.id ∈ ids ∧ e = entryOf layout before e.id after := by
  induction ids with
  | nil => intro previous h; exact absurd h List.not_mem_nil
  | cons id rest ih =>
    intro previous h
    rcases List.mem_cons.1 h with rfl | h
    · exact ⟨_, _, List.mem_cons_self, rfl⟩
    · obtain ⟨before, after, hid, he⟩ := ih h
      exact ⟨before, after, List.mem_cons_of_mem _ hid, he⟩

/-- The entries have the ids that they were made of, in their order. -/
theorem ids_entriesFrom (ids : List String) : ∀ previous : Option String,
    (entriesFrom layout previous ids).map Entry.id = ids := by
  induction ids with
  | nil => intro previous; rfl
  | cons id rest ih =>
    intro previous
    rw [entriesFrom, List.map_cons, ih]
    rfl

@[simp] theorem ids_entriesOf (ids : List String) : (entriesOf layout ids).map Entry.id = ids :=
  ids_entriesFrom ids none

@[simp] theorem length_entriesOf (ids : List String) :
    (entriesOf layout ids).length = ids.length := by
  rw [← List.length_map Entry.id, ids_entriesOf]

variable {e : Entry} {ids : List String}

theorem id_mem (h : e ∈ entriesOf layout ids) : e.id ∈ ids :=
  (mem_entriesFrom h).choose_spec.choose_spec.1

theorem source_eq (h : e ∈ entriesOf layout ids) : e.source = layout.sourceOf e.id := by
  obtain ⟨before, after, -, he⟩ := mem_entriesFrom h
  rw [he]
  rfl

theorem kept_eq (h : e ∈ entriesOf layout ids) (k : Kept) : e.kept k = layout.keptOf e.id k := by
  obtain ⟨before, after, -, he⟩ := mem_entriesFrom h
  rw [he]
  cases k <;> rfl

theorem hashPath_eq (h : e ∈ entriesOf layout ids) : e.hashPath = layout.keptOf e.id .digest :=
  kept_eq h .digest

theorem transcriptPath_eq (h : e ∈ entriesOf layout ids) :
    e.transcriptPath = layout.keptOf e.id .transcript := kept_eq h .transcript

/-! ## Paths beside a source -/

/-- A plain name with an extension is one, and no pair of dots. -/
theorem plainName_dotted {ext : String} (h : Path.PlainName id.toList) (he : '/' ∉ ext.toList) :
    Path.PlainName (id ++ "." ++ ext).toList := by
  have hl : (id ++ "." ++ ext).toList = id.toList ++ '.' :: ext.toList := by
    rw [String.toList_append, String.toList_append, List.append_assoc]
    rfl
  rw [hl]
  refine ⟨by simp, ?_, ?_, ?_⟩
  · simp only [List.mem_append, List.mem_cons, not_or]
    exact ⟨h.no_slash, by decide, he⟩
  · intro hd
    have hlen := congrArg List.length hd
    have hpos := List.length_pos_iff.2 h.ne_nil
    simp only [List.length_append, List.length_cons, List.length_nil] at hlen
    omega
  · intro hd
    have hlen := congrArg List.length hd
    have hpos := List.length_pos_iff.2 h.ne_nil
    simp only [List.length_append, List.length_cons, List.length_nil] at hlen
    have hone : id.toList.length = 1 := by omega
    obtain ⟨c, hc⟩ := List.length_eq_one_iff.1 hone
    rw [hc, List.singleton_append, List.cons.injEq] at hd
    exact h.no_dot (by rw [hc, hd.1])

theorem suffix_no_slash (k : Kept) : '/' ∉ k.suffix.toList := by
  cases k <;> decide

/-- The place of a file beside the source of an id. -/
def beside (layout : Layout) (w : Location) (id ext : String) : Location :=
  .text (id ++ "." ++ ext).toList :: layout.home w id

theorem keptOf_eq (layout : Layout) (id : String) (k : Kept) : layout.keptOf id k =
    (layout.examples.join ⟨id.toList⟩).join ⟨(id ++ "." ++ k.suffix).toList⟩ := by
  cases k <;> rfl

theorem goal_beside {ext : String} (h : Path.PlainName id.toList) (he : '/' ∉ ext.toList) :
    ((layout.examples.join ⟨id.toList⟩).join ⟨(id ++ "." ++ ext).toList⟩).goal w =
      layout.beside w id ext := by
  rw [Path.goal_join_plain (plainName_dotted h he), Path.goal_join_plain h]
  rfl

theorem way_beside {ext : String} (h : Path.PlainName id.toList) (he : '/' ∉ ext.toList) :
    l ∈ ((layout.examples.join ⟨id.toList⟩).join ⟨(id ++ "." ++ ext).toList⟩).way w ↔
      l ∈ layout.examples.way w ∨ l = layout.home w id ∨ l = layout.beside w id ext := by
  rw [Path.way_join_plain (plainName_dotted h he), Path.way_join_plain h, Path.goal_join_plain h,
    or_assoc]
  rfl

theorem goal_sourceOf (h : Path.PlainName id.toList) (he : '/' ∉ layout.extension.toList) :
    (layout.sourceOf id).goal w = layout.beside w id layout.extension := goal_beside h he

theorem way_sourceOf (h : Path.PlainName id.toList) (he : '/' ∉ layout.extension.toList) :
    l ∈ (layout.sourceOf id).way w ↔ l ∈ layout.examples.way w ∨ l = layout.home w id ∨
      l = layout.beside w id layout.extension := way_beside h he

theorem goal_keptOf (h : Path.PlainName id.toList) (k : Kept) :
    (layout.keptOf id k).goal w = layout.beside w id k.suffix := by
  rw [keptOf_eq]
  exact goal_beside h (suffix_no_slash k)

theorem way_keptOf (h : Path.PlainName id.toList) (k : Kept) :
    l ∈ (layout.keptOf id k).way w ↔ l ∈ layout.examples.way w ∨ l = layout.home w id ∨
      l = layout.beside w id k.suffix := by
  rw [keptOf_eq]
  exact way_beside h (suffix_no_slash k)

/-- **Files beside sources** are told apart by id and suffix. -/
theorem beside_inj {ext ext' : String} :
    layout.beside w id ext = layout.beside w id' ext' ↔ id = id' ∧ ext = ext' := by
  constructor
  · intro h
    unfold beside home at h
    simp only [List.cons.injEq, Name.text.injEq, and_true, String.toList_inj] at h
    obtain ⟨hn, rfl⟩ := h
    refine ⟨rfl, ?_⟩
    have hl := congrArg String.toList hn
    rw [String.toList_append, String.toList_append, String.toList_append, String.toList_append,
      List.append_cancel_left_eq] at hl
    exact String.toList_inj.1 hl
  · rintro ⟨rfl, rfl⟩; rfl

theorem beside_ne_home {ext : String} : layout.beside w id ext ≠ layout.home w id' := by
  intro h
  have hl := congrArg List.length h
  unfold beside home at hl
  simp at hl

theorem beside_ne_child {ext : String} {n : Name} :
    layout.beside w id ext ≠ n :: layout.root w := by
  intro h
  have hl := congrArg List.length h
  unfold beside home at hl
  simp at hl

/-- A place is strictly inside the examples. -/
def Inside (layout : Layout) (w l : Location) : Prop := ∃ n, (n :: layout.root w) <:+ l

theorem Inside.length_lt (h : layout.Inside w l) : (layout.root w).length < l.length := by
  obtain ⟨n, hn⟩ := h
  exact hn.length_le

theorem inside_home : layout.Inside w (layout.home w id) := ⟨_, List.suffix_rfl⟩

theorem inside_beside {ext : String} : layout.Inside w (layout.beside w id ext) :=
  ⟨_, List.suffix_cons _ _⟩

end Layout

/-! ## The ids of a tree -/

/-- The ids of the examples in their order. -/
def enumeratedIds (layout : Layout) (t : Tree) : Except BuildError (List String) :=
  if t.isDir layout.examples then (directoryIds t layout.examples).2.bind (orderedIds t layout)
  else .error (.config (.noExamples layout.examples))

theorem forM_report (events : List Event) : ∀ s : Session, ∃ s' : Session,
    (events.forM Building.report) s = (.ok (), s') ∧ s.Untouched s' := by
  induction events with
  | nil => intro s; exact ⟨s, rfl, .refl s⟩
  | cons v rest ih =>
    intro s
    obtain ⟨s', h, hs'⟩ := ih (s.reporting v)
    refine ⟨s', ?_, (s.untouched_reporting v).trans hs'⟩
    show (Building.report v >>= fun _ => rest.forM Building.report) s = _
    rw [Building.bind_ok (Building.report_run v s)]
    exact h

/-- **The catalog** is made of the ids of the tree. It leaves the files as they are and runs
nothing. -/
theorem catalog_run (layout : Layout) (s : Session) : ∃ s' : Session, s.Untouched s' ∧
    catalog layout s = match enumeratedIds layout s.files with
      | .ok ids => (.ok (entriesOf layout ids), s')
      | .error e => (.error e, s') := by
  unfold catalog enumeratedIds
  rw [Building.bind_ok (Building.files_run s)]
  by_cases hd : s.files.isDir layout.examples = true
  · rw [hd, if_neg (by decide), if_pos rfl]
    cases hf : directoryIds s.files layout.examples with
    | mk events found =>
      obtain ⟨s₁, hrun, hs₁⟩ := forM_report events s
      simp only
      cases hi : found.bind (orderedIds s.files layout) with
      | error e =>
        refine ⟨s₁, hs₁, ?_⟩
        rw [Building.bind_ok hrun]
        rfl
      | ok ids =>
        refine ⟨s₁.reporting (.foundExamples ids.length layout.examples),
          hs₁.trans (s₁.untouched_reporting _), ?_⟩
        rw [Building.bind_ok hrun]
        rfl
  · rw [Bool.eq_false_iff.2 hd, if_pos (by decide), if_neg (by decide)]
    exact ⟨s, .refl s, rfl⟩

variable {t u : Tree} {layout : Layout} {w : Location} {ids : List String}

theorem entryAt_congr {directory : Path} {root : Location} {n : Name}
    (h : t.get? (n :: root) = u.get? (n :: root)) (hno : t.NoLink (n :: root)) :
    entryAt t directory root n = entryAt u directory root n := by
  unfold entryAt
  simp only
  rw [← h]
  -- only a link would be a reason to look elsewhere
  cases hg : t.get? (n :: root) with
  | none => rfl
  | some e =>
    cases e with
    | link target => exact absurd hg (hno target)
    | directory => rfl
    | file content => rfl

theorem idsAmong_congr {directory : Path} {root : Location}
    (h : ∀ n, t.get? (n :: root) = u.get? (n :: root)) (hno : ∀ n, t.NoLink (n :: root))
    (names : List Name) : idsAmong t directory root names = idsAmong u directory root names := by
  induction names with
  | nil => rfl
  | cons n rest ih =>
    unfold idsAmong
    rw [entryAt_congr (h n) (hno n), ih]

/-- The manifest of a tree that has ids can be read. -/
theorem manifest_read (h : enumeratedIds layout t = .ok ids) {m : Path}
    (hm : layout.manifest = some m) : ∃ content, t.read m = .ok content := by
  unfold enumeratedIds at h
  split at h
  · cases hf : (directoryIds t layout.examples).2 with
    | error e => rw [hf] at h; cases h
    | ok found =>
      rw [hf] at h
      have ho : orderedIds t layout found = .ok ids := h
      unfold orderedIds readText at ho
      rw [hm] at ho
      cases hr : t.read m with
      | error e => simp [hr] at ho
      | ok content => exact ⟨content, rfl⟩
  · cases h

theorem isDir_of_enumerated (h : enumeratedIds layout t = .ok ids) :
    t.isDir layout.examples = true := by
  unfold enumeratedIds at h
  split at h
  · assumption
  · cases h

/-- **What the ids of a tree depend on**: the names in the examples directory, what is there, and
the text of the manifest. -/
theorem enumeratedIds_congr (hd : t.isDir layout.examples = true)
    (hd' : u.isDir layout.examples = true)
    (hr : t.resolve layout.examples = .ok (layout.root w))
    (hr' : u.resolve layout.examples = .ok (layout.root w))
    (hnames : t.names (layout.root w) = u.names (layout.root w))
    (hget : ∀ n, t.get? (n :: layout.root w) = u.get? (n :: layout.root w))
    (hno : ∀ n, t.NoLink (n :: layout.root w))
    (hm : ∀ m, layout.manifest = some m → t.readText m = u.readText m) :
    enumeratedIds layout t = enumeratedIds layout u := by
  have hfound : directoryIds t layout.examples = directoryIds u layout.examples := by
    unfold directoryIds
    rw [hr, hr']
    simp only
    rw [hnames, idsAmong_congr hget hno]
  -- the order of what has been found depends on the manifest only
  have hordered : orderedIds t layout = orderedIds u layout := by
    funext found
    unfold orderedIds
    cases hl : layout.manifest with
    | none => rfl
    | some m => simp only [hm m hl]
  unfold enumeratedIds
  rw [if_pos hd, if_pos hd', hfound, hordered]

end LiterateSite.Site
