import Mathlib.Data.Set.Insert
import LiterateSite.Proofs.Files.Grow

/-!
# Trees with links

What can be said of paths that lead over links.

* `Passes`, `advance_cons_cases`: **what a step on a way can do.**
* `Rooted`: what is in a tree is in a directory of it. `Ended`, `Rooted.resolveSteps_ended`: **paths
  end at a directory or in one**, and not at a link if links are followed.
* `Rooted.createDirAll`, `write_change`, `unlink_change`: creating directories, writing and removing
  in such a tree.
* `Pruned`: a tree without some of its links. `Pruned.place?_cases`: **where a path leads then**: to
  where it led before, or to the place of a link that is gone.
* `Clear`, `content?_of_clear`: paths that do not lead over these links.
-/

namespace LiterateSite.Files.Tree

variable {t u v t' : Tree} {p q : Path} {l k : Location} {s : Step} {rest steps : List Step}
  {follow : Bool} {K X : Set Location}

/-! ## Steps -/

/-- A step from a place leads to the next one, and not over a link. -/
def Passes (t : Tree) (l : Location) (s : Step) : Prop :=
  t.get? l = some .directory ∧ ∀ n, s = .name n → ¬ n.size > 255 ∧ t.NoLink (n :: l)

theorem Passes.advance (h : t.Passes l s) (follow : Bool) (rest : List Step) :
    t.advance follow l (s :: rest) = t.advance follow (stepTo l s) rest := by
  obtain ⟨hd, hn⟩ := h
  cases s with
  | up => exact advance_up hd rest
  | here => exact advance_here hd rest
  | slash => exact advance_slash hd rest
  | name n => exact advance_name hd (hn n rfl).1 (hn n rfl).2 rest

/-- **What a step can do**: it leads to the next place, or it finds a link. -/
theorem advance_cons_cases {r : Reached} (h : t.advance follow l (s :: rest) = .ok r) :
    (t.Passes l s ∧ t.advance follow (stepTo l s) rest = .ok r) ∨
      ∃ n target, s = .name n ∧ t.get? l = some .directory ∧ ¬ n.size > 255 ∧
        t.get? (n :: l) = some (.link target) ∧
        r = if rest.isEmpty && !follow then .place (n :: l) else .link l target rest := by
  have hd : t.get? l = some .directory := directory_of_advance h
  by_cases hp : t.Passes l s
  · exact .inl ⟨hp, (hp.advance follow rest).symm.trans h⟩
  · -- only a name can fail to pass, and a long one would have failed
    cases s with
    | name n =>
      by_cases hn : n.size > 255
      · rw [advance_long hd hn] at h
        cases h
      · have hlink : ∃ target, t.get? (n :: l) = some (.link target) := by
          by_contra hno
          refine hp ⟨hd, fun n' hn' => ?_⟩
          cases hn'
          exact ⟨hn, fun target ht => hno ⟨target, ht⟩⟩
        obtain ⟨target, ht⟩ := hlink
        rw [advance_link hd hn ht] at h
        refine .inr ⟨n, target, rfl, hd, hn, ht, ?_⟩
        split at h
        · next hc => rw [if_pos hc, Except.ok.inj h]
        · next hc => rw [if_neg hc, Except.ok.inj h]
    | up => exact absurd ⟨hd, fun _ hn => by cases hn⟩ hp
    | here => exact absurd ⟨hd, fun _ hn => by cases hn⟩ hp
    | slash => exact absurd ⟨hd, fun _ hn => by cases hn⟩ hp

/-! ## Rooted trees -/

/-- What is in the tree is in a directory of it, and relative paths begin at one. Files are left
out: they are looked at by the paths that lead to them. -/
structure Rooted (t : Tree) : Prop where
  workDir : t.get? t.workDir = some .directory
  around : ∀ n l, t.shapeAt (n :: l) ≠ none → t.get? l = some .directory

/-- It is enough to look at what is in the tree. -/
theorem rooted_of_entries (hw : t.get? t.workDir = some .directory)
    (h : ∀ x ∈ t.entries, t.get? x.1.tail = some .directory) : Rooted t := by
  refine ⟨hw, fun n l hl => ?_⟩
  have hsome : (t.entries.lookup (n :: l)).isSome = true := by
    by_contra hnone
    refine hl ?_
    have hget : t.get? (n :: l) = none := Option.not_isSome_iff_eq_none.1 hnone
    unfold shapeAt
    rw [hget]
  obtain ⟨x, hx, he⟩ := List.lookup_isSome_iff.1 hsome
  have hdir := h x hx
  rw [← eq_of_beq he] at hdir
  exact hdir

theorem Rooted.tail (h : Rooted t) (hl : t.get? l = some .directory) :
    t.get? l.tail = some .directory := by
  cases l with
  | nil => rfl
  | cons n l =>
    refine h.around n l ?_
    rw [shapeAt_directory.2 hl]
    exact Option.some_ne_none _

/-- A place is a directory or in one, and it is no link if links are followed. -/
def Ended (t : Tree) (follow : Bool) (l : Location) : Prop :=
  t.get? l = some .directory ∨
    ∃ n d, l = n :: d ∧ t.get? d = some .directory ∧ (follow = true → t.NoLink l)

theorem Ended.noLink (h : t.Ended true l) : t.NoLink l := by
  rcases h with hd | ⟨n, d, -, -, hno⟩
  · intro target ht
    rw [hd] at ht
    cases ht
  · exact hno rfl

theorem Rooted.passes_ended (hr : Rooted t) (h : t.Passes l s) : t.Ended follow (stepTo l s) := by
  obtain ⟨hd, hn⟩ := h
  cases s with
  | up => exact .inl (hr.tail hd)
  | here => exact .inl hd
  | slash => exact .inl hd
  | name n => exact .inr ⟨n, l, rfl, hd, fun _ => (hn n rfl).2⟩

theorem Rooted.advance_ended (hr : Rooted t) (steps : List Step) : ∀ l, t.Ended follow l →
    t.advance follow l steps = .ok (.place k) → t.Ended follow k := by
  induction steps with
  | nil =>
    intro l hl h
    cases h
    exact hl
  | cons s rest ih =>
    intro l _ h
    rcases advance_cons_cases h with ⟨hp, hrest⟩ | ⟨n, target, -, hd, -, -, hr'⟩
    · exact ih _ (hr.passes_ended hp) hrest
    · -- the way ends at a link only if links at the end are not followed
      split at hr'
      · next hc =>
        cases hr'
        refine .inr ⟨n, l, rfl, hd, fun hf => ?_⟩
        rw [hf] at hc
        simp at hc
      · cases hr'

theorem advance_link_directory {d : Location} {target : List Char} {more : List Step}
    (steps : List Step) : ∀ l, t.advance follow l steps = .ok (.link d target more) →
      t.get? d = some .directory := by
  induction steps with
  | nil => intro l h; cases h
  | cons s rest ih =>
    intro l h
    rcases advance_cons_cases h with ⟨-, hrest⟩ | ⟨n, target', -, hd, -, -, hr⟩
    · exact ih _ hrest
    · split at hr
      · cases hr
      · cases hr
        exact hd

theorem Rooted.walk_ended (hr : Rooted t) (fuel : Nat) : ∀ l steps, t.get? l = some .directory →
    t.walk follow fuel l steps = .ok k → t.Ended follow k := by
  -- a link is followed from the directory that it is in, or from the root
  induction fuel with
  | zero => intro l steps _ h; cases h
  | succ fuel ih =>
    intro l steps hl h
    unfold walk at h
    cases ha : t.advance follow l steps with
    | error e => rw [ha] at h; cases h
    | ok r =>
      rw [ha] at h
      cases r with
      | place k' =>
        cases h
        exact hr.advance_ended steps l (.inl hl) ha
      | link d target rest =>
        refine ih _ _ ?_ h
        split
        · rfl
        · exact advance_link_directory steps l ha

theorem Rooted.resolveSteps_ended (hr : Rooted t)
    (h : t.resolveSteps follow p steps = .ok l) : t.Ended follow l := by
  unfold resolveSteps at h
  split at h
  · cases h
  · split at h
    · cases h
    · refine hr.walk_ended maxLinks _ steps ?_ h
      split
      · rfl
      · exact hr.workDir

/-- **A path never ends at a link** that is followed. -/
theorem Rooted.noLink_of_place (hr : Rooted t) (h : t.place? p = some l) : t.NoLink l :=
  (hr.resolveSteps_ended (toOption_eq_some.1 h)).noLink

/-! ## Creating directories -/

theorem Rooted.createDir (hr : Rooted t) (h : t.createDir p = .ok t') : Rooted t' := by
  unfold Tree.createDir at h
  cases hl : t.resolveSteps false p (p.steps.filter (· != .slash)) with
  | error e => rw [hl] at h; cases h
  | ok l =>
    rw [hl] at h
    cases hg : t.get? l with
    | some e => simp [hg] at h
    | none =>
      simp only [hg, Except.ok.injEq] at h
      subst h
      -- what comes to be at the place is in a directory
      obtain ⟨n, d, rfl, hd, -⟩ := (hr.resolveSteps_ended hl).resolve_left (by simp [hg])
      have hkeep : ∀ k, t.get? k = some .directory →
          (t.insert (n :: d) .directory).get? k = some .directory := by
        intro k hk
        refine (get?_insert_of_ne (List.cons_ne_nil _ _) _ ?_).trans hk
        rintro rfl
        rw [hg] at hk
        cases hk
      refine ⟨hkeep _ hr.workDir, fun n' l' hs => hkeep _ ?_⟩
      by_cases he : n' :: l' = n :: d
      · rw [(List.cons.inj he).2]
        exact hd
      · refine hr.around n' l' ?_
        unfold shapeAt at hs ⊢
        rwa [get?_insert_of_ne (List.cons_ne_nil _ _) _ he] at hs

/-- **What creating a directory keeps**, creating those that it is in keeps, too. -/
theorem createDirs_induction {P : Tree → Prop}
    (hP : ∀ {t t' : Tree} {p : Path}, P t → t.createDir p = .ok t' → P t') (fuel : Nat) :
    ∀ (t : Tree) (p : Path), P t → P (createDirs fuel t p).1 := by
  have hattempt : ∀ (t : Tree) (p : Path), P t → P (attempt t p).1 := by
    intro t p h
    unfold attempt
    cases hc : t.createDir p with
    | ok t' => exact hP h hc
    | error e => rw [settle_fst]; exact h
  induction fuel with
  | zero => intro t p h; exact h
  | succ fuel ih =>
    intro t p h
    by_cases hp : p.chars = []
    · rw [createDirs_empty hp]; exact h
    cases hc : t.createDir p with
    | ok t' => rw [createDirs_ok hp hc]; exact hP h hc
    | error e =>
      by_cases he : e = .notFound
      · subst he
        cases hq : p.parent? with
        | none => rw [createDirs_top hp hc hq]; exact h
        | some q =>
          -- first the directory around, and then another attempt
          have h₁ := ih t q h
          cases hd : createDirs fuel t q with
          | mk t₁ r =>
            rw [hd] at h₁
            rw [createDirs_parent hp hc hq hd]
            cases r with
            | error e => exact h₁
            | ok _ => exact hattempt t₁ p h₁
      · rw [createDirs_settle hp hc he, settle_fst]; exact h

theorem Rooted.createDirAll (hr : Rooted t) (p : Path) : Rooted (t.createDirAll p).1 :=
  createDirs_induction Rooted.createDir _ t p hr

/-! ## Writing and removing -/

/-- **Writing** puts a file to the end of the path, where there was a file or nothing. -/
theorem write_change (hr : Rooted t) {content : List UInt8} (h : t.write p content = .ok t') :
    ∃ l, t.place? p = some l ∧ t.shapeAt l = none ∧ t' = t.insert l (.file content) := by
  unfold write at h
  cases hl : t.resolve p with
  | error e => rw [hl] at h; cases h
  | ok l =>
    have hp : t.place? p = some l := toOption_eq_some.2 hl
    have hno := hr.noLink_of_place hp
    rw [hl] at h
    refine ⟨l, hp, ?_⟩
    unfold shapeAt
    cases hg : t.get? l with
    | none => simp only [hg, Except.ok.injEq] at h; exact ⟨rfl, h.symm⟩
    | some e =>
      cases e with
      | directory => simp [hg] at h
      | file old => simp only [hg, Except.ok.injEq] at h; exact ⟨rfl, h.symm⟩
      | link target => exact absurd hg (hno target)

theorem agreeOff_insert (hl : l ≠ []) (e : Entry) : AgreeOff {l} t (t.insert l e) :=
  ⟨rfl, fun _ hk => (get?_insert_of_ne hl e hk).symm⟩

theorem agreeOff_erase (hl : l ≠ []) : AgreeOff {l} t (t.erase l) :=
  ⟨rfl, fun _ hk => (get?_erase_of_ne hl hk).symm⟩

/-- **Removing** takes away what is at the end of the path, a file or a link. -/
theorem unlink_change (h : t.unlink p = .ok t') :
    ∃ l, t.place? p false = some l ∧ t.get? l ≠ some .directory ∧ t' = t.erase l := by
  unfold unlink at h
  cases hl : t.resolve p false with
  | error e => rw [hl] at h; cases h
  | ok l =>
    rw [hl] at h
    refine ⟨l, toOption_eq_some.2 hl, ?_⟩
    cases hg : t.get? l with
    | none => simp [hg] at h
    | some e =>
      cases e with
      | directory => simp [hg] at h
      | file old => simp only [hg, Except.ok.injEq] at h; exact ⟨by simp, h.symm⟩
      | link target => simp only [hg, Except.ok.injEq] at h; exact ⟨by simp, h.symm⟩

/-! ## Trees without some links -/

/-- The tree `u` has the directories and links of `t`, but for some links at places of `K`. -/
structure Pruned (K : Set Location) (t u : Tree) : Prop where
  workDir : t.workDir = u.workDir
  shape : ∀ l, u.shapeAt l = t.shapeAt l ∨
    (l ∈ K ∧ u.shapeAt l = none ∧ ∃ target, t.shapeAt l = some (.link target))

namespace Pruned

theorem refl (K : Set Location) (t : Tree) : Pruned K t t := ⟨rfl, fun _ => .inl rfl⟩

theorem sameShape (h : Pruned K t u) (hs : SameShape u v) : Pruned K t v := by
  refine ⟨h.workDir.trans hs.workDir, fun l => ?_⟩
  rw [← hs.shape]
  exact h.shape l

theorem directory_iff (h : Pruned K t u) (l : Location) :
    u.get? l = some .directory ↔ t.get? l = some .directory := by
  rw [← shapeAt_directory, ← shapeAt_directory]
  rcases h.shape l with he | ⟨-, hu, target, ht⟩
  · rw [he]
  · simp [hu, ht]

theorem rooted (h : Pruned K t u) (hr : Rooted t) : Rooted u := by
  refine ⟨?_, fun n l hl => (h.directory_iff l).2 ?_⟩
  · rw [← h.workDir]
    exact (h.directory_iff _).2 hr.workDir
  · rcases h.shape (n :: l) with he | ⟨-, hu, -⟩
    · exact hr.around n l (he ▸ hl)
    · exact absurd hu hl

/-- A file or a link at a place of `K` may be removed. -/
theorem erase (h : Pruned K t u) (hl : l ∈ K) (hd : u.get? l ≠ some .directory) :
    Pruned K t (u.erase l) := by
  have hne : l ≠ [] := by
    rintro rfl
    exact hd rfl
  refine ⟨h.workDir, fun k => ?_⟩
  by_cases hk : k = l
  · subst hk
    have hgone : (u.erase k).shapeAt k = none := by
      unfold shapeAt
      rw [get?_erase u hne, if_pos rfl]
    rw [hgone]
    -- a link that is gone was one of the first tree
    rcases h.shape k with he | ⟨-, -, ht⟩
    · cases ht : t.shapeAt k with
      | none => exact .inl rfl
      | some e =>
        cases e with
        | directory => exact absurd (shapeAt_directory.1 (he.trans ht)) hd
        | file content => unfold shapeAt at ht; split at ht <;> simp_all
        | link target => exact .inr ⟨hl, rfl, target, rfl⟩
    · exact .inr ⟨hl, rfl, ht⟩
  · have hsame : (u.erase l).shapeAt k = u.shapeAt k := by
      unfold shapeAt
      rw [get?_erase_of_ne hne hk]
    rw [hsame]
    exact h.shape k

/-- A step that leads on without the links did so before, or it leads to the place of one. -/
theorem passes (h : Pruned K t u) (hp : u.Passes l s) :
    t.Passes l s ∨ (stepTo l s ∈ K ∧ u.shapeAt (stepTo l s) = none) := by
  obtain ⟨hd, hn⟩ := hp
  by_cases hk : ∃ n, s = .name n ∧ ∃ target, t.get? (n :: l) = some (.link target)
  · obtain ⟨n, rfl, target, ht⟩ := hk
    rcases h.shape (n :: l) with he | ⟨hin, hu, -⟩
    · have hu := shapeAt_link.1 (he.trans (shapeAt_link.2 ht))
      exact absurd hu ((hn n rfl).2 target)
    · exact .inr ⟨hin, hu⟩
  · refine .inl ⟨(h.directory_iff l).1 hd, fun n hs => ⟨(hn n hs).1, fun target ht => ?_⟩⟩
    exact hk ⟨n, hs, target, ht⟩

theorem advance_cases (h : Pruned K t u) (steps : List Step) : ∀ l r,
    u.advance follow l steps = .ok r →
      t.advance follow l steps = .ok r ∨ ∃ k ∈ K, r = .place k := by
  induction steps with
  | nil => intro l r hu; exact .inl hu
  | cons s rest ih =>
    intro l r hu
    rcases advance_cons_cases hu with ⟨hp, hrest⟩ | ⟨n, target, rfl, hd, hn, ht, rfl⟩
    · rcases h.passes hp with hp' | ⟨hk, hnone⟩
      · rw [hp'.advance follow rest]
        exact ih _ r hrest
      · -- from the place of a link that is gone no step leads on
        cases rest with
        | nil => exact .inr ⟨_, hk, (Except.ok.inj hrest).symm⟩
        | cons s' rest' =>
          have hnot : u.get? (stepTo l s) ≠ some .directory := by
            intro hdir
            rw [shapeAt_directory.2 hdir] at hnone
            cases hnone
          have herr : (u.advance follow (stepTo l s) (s' :: rest')).toOption = none :=
            advance_of_not_directory hnot s' rest'
          rw [hrest] at herr
          cases herr
    · refine .inl ?_
      have ht' : t.get? (n :: l) = some (.link target) := by
        rcases h.shape (n :: l) with he | ⟨-, hnone, -⟩
        · exact shapeAt_link.1 (he ▸ shapeAt_link.2 ht)
        · rw [shapeAt_link.2 ht] at hnone
          cases hnone
      rw [advance_link ((h.directory_iff l).1 hd) hn ht']
      split <;> rfl

theorem walk_cases (h : Pruned K t u) (fuel : Nat) : ∀ l steps k,
    u.walk follow fuel l steps = .ok k → t.walk follow fuel l steps = .ok k ∨ k ∈ K := by
  -- links that are still there are followed as before
  induction fuel with
  | zero => intro l steps k hu; cases hu
  | succ fuel ih =>
    intro l steps k hu
    unfold walk at hu ⊢
    cases ha : u.advance follow l steps with
    | error e => rw [ha] at hu; cases hu
    | ok r =>
      rw [ha] at hu
      rcases h.advance_cases steps l r ha with ht | ⟨k', hk', rfl⟩
      · rw [ht]
        cases r with
        | place k' => exact .inl hu
        | link d target rest => exact ih _ _ k hu
      · cases hu
        exact .inr hk'

/-- **Where a path leads without some links**: to where it led before, or to the place of one. -/
theorem place?_cases (h : Pruned K t u) (hl : u.place? p follow = some l) :
    t.place? p follow = some l ∨ l ∈ K := by
  have hu := toOption_eq_some.1 hl
  unfold place? resolve
  rw [toOption_eq_some]
  unfold resolve resolveSteps at hu
  unfold resolveSteps
  split at hu
  · cases hu
  · next he =>
    rw [if_neg he]
    split at hu
    · cases hu
    · next hc =>
      rw [if_neg hc, h.workDir]
      exact h.walk_cases _ _ _ l hu

end Pruned

namespace Pruned

variable {content : List UInt8}

/-- A path that led to places of `K` still does. -/
theorem place?_mem (h : Pruned K t u) (hk : ∀ l, t.place? p follow = some l → l ∈ K)
    (hl : u.place? p follow = some l) : l ∈ K := by
  rcases h.place?_cases hl with ht | hin
  · exact hk l ht
  · exact hin

/-- **Writing** keeps the directories and links, and changes one place. -/
theorem of_write (h : Pruned K t u) (hr : Rooted t) (hw : u.write p content = .ok v) :
    ∃ l, u.place? p = some l ∧ Pruned K t v ∧ AgreeOff {l} u v ∧
      v.get? l = some (.file content) := by
  obtain ⟨l, hl, hs, rfl⟩ := write_change (h.rooted hr) hw
  have hne := ne_nil_of_shapeAt hs
  exact ⟨l, hl, h.sameShape (sameShape_insert hs content), agreeOff_insert hne _,
    get?_insert_self hne _⟩

/-- **Removing** a file or a link at a place of `K`. -/
theorem of_unlink (h : Pruned K t u) (hk : ∀ l, t.place? p false = some l → l ∈ K)
    (hu : u.unlink p = .ok v) : Pruned K t v ∧ AgreeOff K u v := by
  obtain ⟨l, hl, hd, rfl⟩ := unlink_change hu
  have hne : l ≠ [] := by
    rintro rfl
    exact hd rfl
  have hin := h.place?_mem hk hl
  exact ⟨h.erase hin hd, (agreeOff_erase hne).mono (Set.singleton_subset_iff.2 hin)⟩

end Pruned

/-! ## Paths that do not lead over these links -/

/-- The path leads to the same place without links at places of `K`. -/
def Clear (K : Set Location) (t : Tree) (p : Path) : Prop :=
  ∀ u, Pruned K t u → u.place? p = t.place? p

/-- If there are no links at the places, no path leads over one. -/
theorem clear_of_noLink (h : ∀ l ∈ K, t.NoLink l) (p : Path) : Clear K t p := by
  intro u hu
  have hs : SameShape t u := by
    refine ⟨hu.workDir, fun l => ?_⟩
    rcases hu.shape l with he | ⟨hl, -, target, ht⟩
    · exact he.symm
    · exact absurd (shapeAt_link.1 ht) (h l hl target)
  exact (hs.place?_eq p true).symm

/-- **The content at the end of a clear path** stays as it is when other places change. -/
theorem content?_of_clear (hc : Clear K t p) (hu : Pruned K t u) (hv : Pruned K t v)
    (hx : ∀ l, t.place? p = some l → l ∉ X) (h : AgreeOff X u v) : v.content? p = u.content? p := by
  rw [content?_eq, content?_eq, hc u hu, hc v hv]
  cases hl : t.place? p with
  | none => rfl
  | some l =>
    rw [Option.bind_some, Option.bind_some]
    unfold fileAt?
    rw [h.places l (hx l hl)]

end LiterateSite.Files.Tree
