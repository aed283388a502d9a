import LiterateSite.Files.Access

/-!
# The shape of a tree

Where a path leads is decided by the directories and links of a tree alone. Files can be written
and removed without a path leading elsewhere.

* `Tree.shapeAt`, `SameShape`: a tree without its files, and trees that are the same without them.
* `SameShape.place?_eq`: **a path leads to the same place in trees of the same shape.**
* `Tree.Plain`: a path that leads to a file or to nothing, and is no link itself.
* `Plain.place?_eq_noFollow`: following a link at its end makes no difference to such a path.
-/

namespace LiterateSite.Files

namespace Tree

/-- What is at a place, as far as paths lead over it: a file counts as nothing. -/
def shapeAt (t : Tree) (l : Location) : Option Entry :=
  match t.get? l with
  | some (.file _) => none
  | e => e

/-- The content of the file at a place. -/
def fileAt? (t : Tree) (l : Location) : Option (List UInt8) :=
  match t.get? l with
  | some (.file content) => some content
  | _ => none

/-- The place that a path leads to, if it leads anywhere. -/
def place? (t : Tree) (p : Path) (follow : Bool := true) : Option Location :=
  (t.resolve p follow).toOption

/-- The content of the file that a path leads to. -/
def content? (t : Tree) (p : Path) : Option (List UInt8) := (t.read p).toOption

/-- The path leads to a file or to nothing, and is no link itself. -/
def Plain (t : Tree) (p : Path) : Prop := ∀ l, t.place? p false = some l → t.shapeAt l = none

instance (t : Tree) (p : Path) : Decidable (t.Plain p) :=
  inferInstanceAs (Decidable (∀ l ∈ t.place? p false, t.shapeAt l = none))

theorem shapeAt_eq_none {t : Tree} {l : Location} (h : t.shapeAt l = none) :
    t.get? l = none ∨ ∃ content, t.get? l = some (.file content) := by
  unfold shapeAt at h
  cases hg : t.get? l with
  | none => exact .inl rfl
  | some e =>
    rw [hg] at h
    cases e with
    | file content => exact .inr ⟨content, rfl⟩
    | directory => simp at h
    | link target => simp at h

theorem shapeAt_nil (t : Tree) : t.shapeAt [] = some .directory := rfl

theorem ne_nil_of_shapeAt {t : Tree} {l : Location} (h : t.shapeAt l = none) : l ≠ [] := by
  rintro rfl
  rw [shapeAt_nil] at h
  exact Option.some_ne_none _ h

theorem shapeAt_directory {t : Tree} {l : Location} :
    t.shapeAt l = some .directory ↔ t.get? l = some .directory := by
  unfold shapeAt
  split <;> simp_all

theorem shapeAt_link {t : Tree} {l : Location} {target : List Char} :
    t.shapeAt l = some (.link target) ↔ t.get? l = some (.link target) := by
  unfold shapeAt
  split <;> simp_all

theorem fileAt?_eq_some {t : Tree} {l : Location} {content : List UInt8} :
    t.fileAt? l = some content ↔ t.get? l = some (.file content) := by
  unfold fileAt?
  split <;> simp_all

/-- **The content at the end of a path** is that of the place that it leads to. -/
theorem content?_eq (t : Tree) (p : Path) : t.content? p = (t.place? p).bind t.fileAt? := by
  unfold content? read stat place? fileAt?
  cases t.resolve p true with
  | error e => rfl
  | ok l =>
    simp only [Except.toOption, Option.bind_some]
    cases t.get? l with
    | none => rfl
    | some e => cases e <;> rfl

theorem content?_of_place {t : Tree} {p : Path} {l : Location} (h : t.place? p = some l) :
    t.content? p = t.fileAt? l := by
  rw [content?_eq, h, Option.bind_some]

/-- A path has a content exactly if it leads to a file with it. -/
theorem content?_eq_some {t : Tree} {p : Path} {content : List UInt8} :
    t.content? p = some content ↔ ∃ l, t.place? p = some l ∧ t.get? l = some (.file content) := by
  rw [content?_eq, Option.bind_eq_some_iff]
  simp only [fileAt?_eq_some]

theorem read_eq_ok {t : Tree} {p : Path} {content : List UInt8} :
    t.read p = .ok content ↔ t.content? p = some content := by
  unfold content?
  cases t.read p with
  | error e => simp [Except.toOption]
  | ok c => simp [Except.toOption]

/-! ## Trees of the same shape -/

/-- Two trees have the same directories and links, and relative paths begin at the same place. -/
structure SameShape (t u : Tree) : Prop where
  workDir : t.workDir = u.workDir
  shape : ∀ l, t.shapeAt l = u.shapeAt l

namespace SameShape

variable {t u v : Tree}

theorem refl (t : Tree) : SameShape t t := ⟨rfl, fun _ => rfl⟩

theorem symm (h : SameShape t u) : SameShape u t := ⟨h.workDir.symm, fun l => (h.shape l).symm⟩

theorem trans (h : SameShape t u) (h' : SameShape u v) : SameShape t v :=
  ⟨h.workDir.trans h'.workDir, fun l => (h.shape l).trans (h'.shape l)⟩

theorem directory_iff (h : SameShape t u) (l : Location) :
    t.get? l = some .directory ↔ u.get? l = some .directory := by
  rw [← shapeAt_directory, h.shape l, shapeAt_directory]

theorem link_iff (h : SameShape t u) (l : Location) (target : List Char) :
    t.get? l = some (.link target) ↔ u.get? l = some (.link target) := by
  rw [← shapeAt_link, h.shape l, shapeAt_link]

end SameShape

/-! ## Ways -/

theorem advance_of_not_directory {t : Tree} {follow : Bool} {l : Location}
    (h : t.get? l ≠ some .directory) (s : Step) (rest : List Step) :
    (t.advance follow l (s :: rest)).toOption = none := by
  unfold advance
  cases hg : t.get? l with
  | none => rfl
  | some e =>
    cases e with
    | directory => exact absurd hg h
    | file content => rfl
    | link target => rfl

/-- A way that has an end goes on from a directory. -/
theorem directory_of_advance {t : Tree} {follow : Bool} {l : Location} {s : Step} {rest : List Step}
    {r : Reached} (h : t.advance follow l (s :: rest) = .ok r) : t.get? l = some .directory := by
  refine Classical.byContradiction fun hd => ?_
  have hnone : (t.advance follow l (s :: rest)).toOption = none :=
    advance_of_not_directory hd s rest
  rw [h] at hnone
  exact absurd hnone (Option.some_ne_none _)

theorem advance_up {t : Tree} {follow : Bool} {l : Location} (h : t.get? l = some .directory)
    (rest : List Step) : t.advance follow l (.up :: rest) = t.advance follow l.tail rest := by
  rw [advance]; simp only [h]

theorem advance_here {t : Tree} {follow : Bool} {l : Location} (h : t.get? l = some .directory)
    (rest : List Step) : t.advance follow l (.here :: rest) = t.advance follow l rest := by
  rw [advance]; simp only [h]

theorem advance_slash {t : Tree} {follow : Bool} {l : Location} (h : t.get? l = some .directory)
    (rest : List Step) : t.advance follow l (.slash :: rest) = t.advance follow l rest := by
  rw [advance]; simp only [h]

theorem advance_long {t : Tree} {follow : Bool} {l : Location} (h : t.get? l = some .directory)
    {n : Name} (hn : n.size > 255) (rest : List Step) :
    t.advance follow l (.name n :: rest) = .error .nameTooLong := by
  rw [advance]; simp only [h, if_pos hn]

theorem advance_name {t : Tree} {follow : Bool} {l : Location} (h : t.get? l = some .directory)
    {n : Name} (hn : ¬ n.size > 255) (hl : ∀ target, t.get? (n :: l) ≠ some (.link target))
    (rest : List Step) :
    t.advance follow l (.name n :: rest) = t.advance follow (n :: l) rest := by
  rw [advance]
  simp only [h, if_neg hn]

theorem advance_link {t : Tree} {follow : Bool} {l : Location} (h : t.get? l = some .directory)
    {n : Name} (hn : ¬ n.size > 255) {target : List Char}
    (hl : t.get? (n :: l) = some (.link target)) (rest : List Step) :
    t.advance follow l (.name n :: rest) =
      if rest.isEmpty && !follow then .ok (.place (n :: l)) else .ok (.link l target rest) := by
  rw [advance]; simp only [h, if_neg hn, hl]

/-- **A way goes on alike** in trees of the same shape. -/
theorem SameShape.advance_eq {t u : Tree} (h : SameShape t u) (follow : Bool) (steps : List Step) :
    ∀ l, (t.advance follow l steps).toOption = (u.advance follow l steps).toOption := by
  induction steps with
  | nil => intro l; rfl
  | cons s rest ih =>
    intro l
    by_cases hd : t.get? l = some .directory
    · have hu := (h.directory_iff l).1 hd
      cases s with
      | up => rw [advance_up hd, advance_up hu]; exact ih _
      | here => rw [advance_here hd, advance_here hu]; exact ih _
      | slash => rw [advance_slash hd, advance_slash hu]; exact ih _
      | name n =>
        by_cases hn : n.size > 255
        · rw [advance_long hd hn, advance_long hu hn]
        · by_cases hl : ∃ target, t.get? (n :: l) = some (.link target)
          · obtain ⟨target, ht⟩ := hl
            rw [advance_link hd hn ht, advance_link hu hn ((h.link_iff _ _).1 ht)]
          · have ht : ∀ target, t.get? (n :: l) ≠ some (.link target) := fun x hx => hl ⟨x, hx⟩
            rw [advance_name hd hn ht,
              advance_name hu hn fun x hx => ht x ((h.link_iff _ _).2 hx)]
            exact ih _
    · have hu : u.get? l ≠ some .directory := fun hx => hd ((h.directory_iff l).2 hx)
      rw [advance_of_not_directory hd, advance_of_not_directory hu]

theorem toOption_eq_none {ε α : Type} {r : Except ε α} (h : r.toOption = none) :
    ∃ e, r = .error e := by
  cases r with
  | error e => exact ⟨e, rfl⟩
  | ok a => exact absurd h (Option.some_ne_none a)

theorem toOption_eq_some {ε α : Type} {r : Except ε α} {a : α} :
    r.toOption = some a ↔ r = .ok a := by
  cases r with
  | error e => simp [Except.toOption]
  | ok b => simp [Except.toOption]

theorem SameShape.walk_eq {t u : Tree} (h : SameShape t u) (follow : Bool) (fuel : Nat) :
    ∀ l steps, (t.walk follow fuel l steps).toOption = (u.walk follow fuel l steps).toOption := by
  -- on the number of links that may still be followed
  induction fuel with
  | zero => intro l steps; rfl
  | succ fuel ih =>
    intro l steps
    have ha := h.advance_eq follow steps l
    unfold walk
    cases ht : t.advance follow l steps with
    | error e =>
      rw [ht] at ha
      obtain ⟨e', hu⟩ := toOption_eq_none ha.symm
      rw [hu]
      rfl
    | ok r =>
      rw [ht] at ha
      rw [toOption_eq_some.1 ha.symm]
      -- a link has the same target in both, and is followed from the same place
      cases r with
      | place k => rfl
      | link directory target rest => exact ih _ _

/-- **A path leads to the same place** in trees of the same shape. -/
theorem SameShape.place?_eq {t u : Tree} (h : SameShape t u) (p : Path) (follow : Bool) :
    t.place? p follow = u.place? p follow := by
  unfold place? resolve resolveSteps
  rw [h.workDir]
  split
  · rfl
  · split
    · rfl
    · exact h.walk_eq _ _ _ _

theorem isDir_iff {t : Tree} {p : Path} :
    t.isDir p = true ↔ ∃ l, t.place? p = some l ∧ t.get? l = some .directory := by
  unfold isDir stat place?
  rw [beq_iff_eq]
  cases t.resolve p true with
  | error e => simp [Except.toOption]
  | ok l =>
    simp only [Except.toOption, Option.some.injEq, exists_eq_left']
    cases t.get? l with
    | none => simp
    | some e => simp

theorem SameShape.isDir_eq {t u : Tree} (h : SameShape t u) (p : Path) : t.isDir p = u.isDir p := by
  rw [Bool.eq_iff_iff, isDir_iff, isDir_iff, h.place?_eq]
  simp only [h.directory_iff]

/-! ## Paths that are no links -/

/-- Following makes no difference to a way that does not end at a link. -/
theorem advance_follow {t : Tree} (steps : List Step) : ∀ l,
    (∀ k target, t.advance false l steps = .ok (.place k) → t.get? k ≠ some (.link target)) →
      t.advance true l steps = t.advance false l steps := by
  induction steps with
  | nil => intro l _; rfl
  | cons s rest ih =>
    intro l hend
    by_cases hd : t.get? l = some .directory
    · cases s with
      | up => rw [advance_up hd] at hend ⊢; rw [advance_up hd]; exact ih _ hend
      | here => rw [advance_here hd] at hend ⊢; rw [advance_here hd]; exact ih _ hend
      | slash => rw [advance_slash hd] at hend ⊢; rw [advance_slash hd]; exact ih _ hend
      | name n =>
        by_cases hn : n.size > 255
        · rw [advance_long hd hn, advance_long hd hn]
        · by_cases hl : ∃ target, t.get? (n :: l) = some (.link target)
          · -- a link that is not the last step is followed in any case
            obtain ⟨target, ht⟩ := hl
            rw [advance_link hd hn ht] at hend ⊢
            rw [advance_link hd hn ht]
            cases rest with
            | nil => exact absurd ht (hend _ _ rfl)
            | cons s' rest' => rfl
          · have ht : ∀ target, t.get? (n :: l) ≠ some (.link target) := fun x hx => hl ⟨x, hx⟩
            rw [advance_name hd hn ht] at hend ⊢
            rw [advance_name hd hn ht]
            exact ih _ hend
    · unfold advance
      cases hg : t.get? l with
      | none => rfl
      | some e =>
        cases e with
        | directory => exact absurd hg hd
        | file content => rfl
        | link target => rfl

theorem walk_follow {t : Tree} (fuel : Nat) : ∀ l steps,
    (∀ k target, t.walk false fuel l steps = .ok k → t.get? k ≠ some (.link target)) →
      t.walk true fuel l steps = t.walk false fuel l steps := by
  -- only the last link could make a difference, and the way does not end at one
  induction fuel with
  | zero => intro l steps _; rfl
  | succ fuel ih =>
    intro l steps hend
    have ha : t.advance true l steps = t.advance false l steps := by
      refine advance_follow steps l fun k target hk => hend k target ?_
      rw [walk, hk]
    unfold walk at hend ⊢
    rw [ha]
    cases hadv : t.advance false l steps with
    | error e => rfl
    | ok r =>
      cases r with
      | place k => rfl
      | link directory target rest =>
        rw [hadv] at hend
        exact ih _ _ hend

/-- **Following a link at its end** makes no difference to a path that is no link. -/
theorem Plain.resolve_eq {t : Tree} {p : Path} (h : t.Plain p) : t.resolve p = t.resolve p false := by
  unfold Plain place? at h
  unfold resolve resolveSteps at h ⊢
  split
  · rfl
  · next he =>
    rw [if_neg he] at h
    split
    · rfl
    · next hc =>
      rw [if_neg hc] at h
      refine walk_follow _ _ _ fun k target hk hlink => ?_
      have hs := h k (toOption_eq_some.2 hk)
      rw [shapeAt_link.2 hlink] at hs
      exact Option.some_ne_none _ hs

theorem Plain.place?_eq_noFollow {t : Tree} {p : Path} (h : t.Plain p) :
    t.place? p = t.place? p false := congrArg Except.toOption h.resolve_eq

theorem Plain.shapeAt_place {t : Tree} {p : Path} (h : t.Plain p) {l : Location}
    (hl : t.place? p = some l) : t.shapeAt l = none := h l (h.place?_eq_noFollow ▸ hl)

theorem SameShape.plain {t u : Tree} (h : SameShape t u) {p : Path} (hp : t.Plain p) :
    u.Plain p := by
  intro l hl
  rw [← h.place?_eq] at hl
  rw [← h.shape l]
  exact hp l hl

end Tree

end LiterateSite.Files
