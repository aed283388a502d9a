import LiterateSite.Proofs.Files.Rewrite
import LiterateSite.Proofs.Files.Links

/-!
# Trees that only grow

* `Extends`: all that is in a tree is in another one, and no link has come to be.
  `Extends.place?`, `Extends.stat`: **a path that led to a place leads to it still.**
* `Adds`: a tree with directories and written files at places where nothing was. `Adds.trans`.
* `adds_write`, `createDirAll_adds`: **writing where nothing is, and creating directories**, add to
  a tree.
* `createDirAll_isDir`, `createDirAll_of_isDir`: a directory that has been created is there, and is
  not created again. Both are about paths over any links.
-/

namespace LiterateSite.Files.Tree

variable {t t' t'' : Tree} {p q : Path} {l k : Location} {s : Step} {steps : List Step} {e : Entry}
  {r : Reached} {fuel : Nat} {follow : Bool} {content : List UInt8} {D D' : Set Location}
  {W W' : Set (Path × List UInt8)}

/-! ## What is at the end of a path -/

theorem stat_eq_ok : t.stat p = .ok e ↔ ∃ l, t.place? p = some l ∧ t.get? l = some e := by
  unfold stat place?
  cases hr : t.resolve p with
  | error e' => simp [Except.toOption]
  | ok l =>
    cases hg : t.get? l with
    | none => simp [Except.toOption, hg]
    | some e' => simp [Except.toOption, hg]

theorem read_eq_ok_iff : t.read p = .ok content ↔ t.stat p = .ok (.file content) := by
  unfold read
  cases hs : t.stat p with
  | error e => simp
  | ok e => cases e <;> simp

theorem isDir_eq_true_iff : t.isDir p = true ↔ t.stat p = .ok .directory := by
  unfold isDir
  cases hs : t.stat p with
  | error e => simp [Except.toOption]
  | ok e => simp [Except.toOption]

theorem exists_eq_true_iff : t.exists p = true ↔ ∃ e, t.stat p = .ok e := by
  unfold «exists»
  cases hs : t.stat p with
  | error e => simp [Except.toOption]
  | ok e => simp [Except.toOption]

/-! ## Paths in a larger tree -/

/-- All that is in the tree `t` is in `t'`, which has no further links. -/
structure Extends (t t' : Tree) : Prop where
  workDir : t'.workDir = t.workDir
  kept : ∀ l e, t.get? l = some e → t'.get? l = some e
  noLink : ∀ l, t.NoLink l → t'.NoLink l

namespace Extends

theorem refl (t : Tree) : Extends t t := ⟨rfl, fun _ _ h => h, fun _ h => h⟩

theorem trans (h : Extends t t') (h' : Extends t' t'') : Extends t t'' :=
  ⟨h'.workDir.trans h.workDir, fun l e he => h'.kept l e (h.kept l e he),
    fun l hl => h'.noLink l (h.noLink l hl)⟩

theorem linkless (h : Extends t t') (hl : t.Linkless) : t'.Linkless := fun l => h.noLink l (hl l)

theorem passes (h : Extends t t') (hp : t.Passes l s) : t'.Passes l s := by
  obtain ⟨hd, hn⟩ := hp
  exact ⟨h.kept _ _ hd, fun n hs => ⟨(hn n hs).1, h.noLink _ (hn n hs).2⟩⟩

/-- **A way that leads on** leads to the same place or link in a larger tree. -/
theorem advance (h : Extends t t') (steps : List Step) : ∀ l,
    t.advance follow l steps = .ok r → t'.advance follow l steps = .ok r := by
  induction steps with
  | nil => intro l ha; exact ha
  | cons s rest ih =>
    intro l ha
    rcases advance_cons_cases ha with ⟨hp, hrest⟩ | ⟨n, target, rfl, hd, hn, ht, rfl⟩
    · rw [(h.passes hp).advance follow rest]
      exact ih _ hrest
    · rw [advance_link (h.kept _ _ hd) hn (h.kept _ _ ht)]
      split <;> rfl

theorem walk (h : Extends t t') (fuel : Nat) : ∀ l steps,
    t.walk follow fuel l steps = .ok k → t'.walk follow fuel l steps = .ok k := by
  induction fuel with
  | zero => intro l steps hw; cases hw
  | succ fuel ih =>
    intro l steps hw
    unfold Tree.walk at hw ⊢
    cases ha : t.advance follow l steps with
    | error e => rw [ha] at hw; cases hw
    | ok r =>
      rw [ha] at hw
      rw [h.advance steps l ha]
      cases r with
      | place k' => exact hw
      | link d target rest => exact ih _ _ hw

theorem resolveSteps (h : Extends t t') (hr : t.resolveSteps follow p steps = .ok l) :
    t'.resolveSteps follow p steps = .ok l := by
  unfold Tree.resolveSteps at hr ⊢
  split at hr
  · cases hr
  · next he =>
    rw [if_neg he]
    split at hr
    · cases hr
    · next hc =>
      rw [if_neg hc, h.workDir]
      exact h.walk maxLinks _ steps hr

/-- **A path that led to a place** leads to it still. -/
theorem place? (h : Extends t t') (hp : t.place? p follow = some l) :
    t'.place? p follow = some l :=
  toOption_eq_some.2 (h.resolveSteps (toOption_eq_some.1 hp))

/-- **What a path led to** is there as it was. -/
theorem stat (h : Extends t t') (hs : t.stat p = .ok e) : t'.stat p = .ok e := by
  obtain ⟨l, hl, he⟩ := stat_eq_ok.1 hs
  exact stat_eq_ok.2 ⟨l, h.place? hl, h.kept l e he⟩

theorem read (h : Extends t t') (hr : t.read p = .ok content) : t'.read p = .ok content :=
  read_eq_ok_iff.2 (h.stat (read_eq_ok_iff.1 hr))

theorem isDir (h : Extends t t') (hd : t.isDir p = true) : t'.isDir p = true :=
  isDir_eq_true_iff.2 (h.stat (isDir_eq_true_iff.1 hd))

theorem «exists» (h : Extends t t') (he : t.exists p = true) : t'.exists p = true := by
  obtain ⟨e, hs⟩ := exists_eq_true_iff.1 he
  exact exists_eq_true_iff.2 ⟨e, h.stat hs⟩

/-- An entry that is no link, at a place where nothing was. -/
theorem insert (hl : t.get? l = none) (he : ∀ target, e ≠ .link target) :
    Extends t (t.insert l e) := by
  have hne : l ≠ [] := by
    rintro rfl
    cases hl
  refine ⟨rfl, fun k e' hk => ?_, fun k hk target => ?_⟩
  · rw [get?_insert_of_ne hne]
    · exact hk
    · rintro rfl
      rw [hl] at hk
      cases hk
  · by_cases hkl : k = l
    · subst hkl
      rw [get?_insert_self hne]
      simpa using he target
    · rw [get?_insert_of_ne hne _ hkl]
      exact hk target

end Extends

/-! ## Additions -/

/-- The tree `t'` is `t` with further entries: directories at places of `D`, and files that have
been written by the paths and with the contents of `W`. -/
structure Adds (D : Set Location) (W : Set (Path × List UInt8)) (t t' : Tree) : Prop
    extends Extends t t' where
  new : ∀ l, t.get? l = none → t'.get? l = none ∨ (l ∈ D ∧ t'.get? l = some .directory) ∨
    ∃ x ∈ W, t'.place? x.1 = some l ∧ t'.get? l = some (.file x.2)

namespace Adds

theorem refl (D : Set Location) (W : Set (Path × List UInt8)) (t : Tree) : Adds D W t t :=
  ⟨Extends.refl t, fun _ h => .inl h⟩

theorem mono (h : Adds D W t t') (hD : D ⊆ D') (hW : W ⊆ W') : Adds D' W' t t' := by
  refine ⟨h.toExtends, fun l hl => ?_⟩
  rcases h.new l hl with hnone | ⟨hd, hg⟩ | ⟨x, hx, hp, hg⟩
  · exact .inl hnone
  · exact .inr (.inl ⟨hD hd, hg⟩)
  · exact .inr (.inr ⟨x, hW hx, hp, hg⟩)

theorem trans (h : Adds D W t t') (h' : Adds D W t' t'') : Adds D W t t'' := by
  refine ⟨h.toExtends.trans h'.toExtends, fun l hl => ?_⟩
  -- what has been added first is still there
  rcases h.new l hl with hnone | ⟨hd, hg⟩ | ⟨x, hx, hp, hg⟩
  · exact h'.new l hnone
  · exact .inr (.inl ⟨hd, h'.kept l _ hg⟩)
  · exact .inr (.inr ⟨x, hx, h'.place? hp, h'.kept l _ hg⟩)

/-- **What is at a place later on** was there before, or it has been added. -/
theorem cases (h : Adds D W t t') (hl : t'.get? l = some e) : t.get? l = some e ∨
    t.get? l = none ∧ ((l ∈ D ∧ e = .directory) ∨
      ∃ x ∈ W, t'.place? x.1 = some l ∧ e = .file x.2) := by
  cases hg : t.get? l with
  | some e' =>
    have hkept := h.kept l e' hg
    rw [hl] at hkept
    exact .inl hkept.symm
  | none =>
    refine .inr ⟨rfl, ?_⟩
    rcases h.new l hg with hnone | ⟨hd, hdir⟩ | ⟨x, hx, hp, hfile⟩
    · rw [hl] at hnone
      cases hnone
    · rw [hl] at hdir
      exact .inl ⟨hd, Option.some.inj hdir⟩
    · rw [hl] at hfile
      exact .inr ⟨x, hx, hp, Option.some.inj hfile⟩

end Adds

/-- **Writing where nothing is** adds a file, which can be read. -/
theorem adds_write (hno : t.exists p = false) (h : t.write p content = .ok t') :
    Adds D {(p, content)} t t' ∧ t'.read p = .ok content := by
  unfold write at h
  cases hr : t.resolve p with
  | error e => rw [hr] at h; cases h
  | ok l =>
    have hl : t.place? p = some l := toOption_eq_some.2 hr
    have hnone : t.get? l = none := by
      by_contra hsome
      obtain ⟨e, he⟩ := Option.ne_none_iff_exists'.1 hsome
      have hexists := exists_eq_true_iff.2 ⟨e, stat_eq_ok.2 ⟨l, hl, he⟩⟩
      rw [hno] at hexists
      cases hexists
    have hne : l ≠ [] := by
      rintro rfl
      cases hnone
    rw [hr] at h
    simp only [hnone, Except.ok.injEq] at h
    subst h
    have hext : Extends t (t.insert l (.file content)) := Extends.insert hnone (by simp)
    have hself : (t.insert l (.file content)).get? l = some (.file content) :=
      get?_insert_self hne _
    have hplace := hext.place? hl
    refine ⟨⟨hext, fun k hk => ?_⟩, read_eq_ok_iff.2 (stat_eq_ok.2 ⟨l, hplace, hself⟩)⟩
    by_cases hkl : k = l
    · subst hkl
      exact .inr (.inr ⟨(p, content), rfl, hplace, hself⟩)
    · rw [get?_insert_of_ne hne _ hkl]
      exact .inl hk

/-! ## Directories -/

theorem createDir_place (h : t.createDir p = .ok t') : ∃ l,
    t.resolveSteps false p p.parts = .ok l ∧ t.get? l = none ∧ t' = t.insert l .directory := by
  unfold createDir at h
  rw [filter_steps] at h
  cases hr : t.resolveSteps false p p.parts with
  | error e => rw [hr] at h; cases h
  | ok l =>
    rw [hr] at h
    cases hg : t.get? l with
    | some e => simp [hg] at h
    | none =>
      simp only [hg, Except.ok.injEq] at h
      exact ⟨l, rfl, hg, h.symm⟩

theorem adds_createDir (h : t.createDir p = .ok t') : Adds Set.univ W t t' := by
  obtain ⟨l, -, hnone, rfl⟩ := createDir_place h
  refine ⟨Extends.insert hnone (by simp), fun k hk => ?_⟩
  have hne : l ≠ [] := by
    rintro rfl
    cases hnone
  by_cases hkl : k = l
  · subst hkl
    exact .inr (.inl ⟨trivial, get?_insert_self hne _⟩)
  · rw [get?_insert_of_ne hne _ hkl]
    exact .inl hk

/-- **Creating a directory and those that it is in** adds directories, whether it succeeds or
not. -/
theorem createDirAll_adds (t : Tree) (p : Path) : Adds Set.univ W t (t.createDirAll p).1 :=
  createDirs_induction (P := fun t' => Adds Set.univ W t t')
    (fun h hc => h.trans (adds_createDir hc)) _ t p (Adds.refl _ _ t)

/-- Without links, the directories are on the way of the path. -/
theorem Linkless.createDirAll_adds (hl : t.Linkless) (p : Path) :
    Adds {k | k ∈ p.way t.workDir} W t (t.createDirAll p).1 := by
  have hgrows := createDirAll_grows (p := p) fun k _ => hl k
  refine ⟨⟨hgrows.workDir, fun l e he => hgrows.get?_of_some he, fun l _ => hgrows.noLink (hl l)⟩,
    fun l hnone => ?_⟩
  rcases hgrows.places l with hsame | ⟨hin, -, hdir⟩
  · exact .inl (hsame.trans hnone)
  · exact .inr (.inl ⟨hin, hdir⟩)

/-- A way of which a link at the end is not followed ends where it does with following, or at a
link. -/
theorem advance_noFollow (steps : List Step) : ∀ l, t.advance true l steps = .ok r →
    t.advance false l steps = .ok r ∨
      ∃ k target, t.advance false l steps = .ok (.place k) ∧ t.get? k = some (.link target) := by
  induction steps with
  | nil => intro l h; exact .inl h
  | cons s rest ih =>
    intro l h
    rcases advance_cons_cases h with ⟨hp, hrest⟩ | ⟨n, target, rfl, hd, hn, ht, rfl⟩
    · rw [hp.advance false rest]
      exact ih _ hrest
    · rw [advance_link hd hn ht]
      cases rest with
      | nil => exact .inr ⟨n :: l, target, rfl, ht⟩
      | cons s' rest' => exact .inl rfl

theorem walk_noFollow (fuel : Nat) : ∀ l steps, t.walk true fuel l steps = .ok k →
    t.get? k ≠ none → ∃ k', t.walk false fuel l steps = .ok k' ∧ t.get? k' ≠ none := by
  -- a link that is not followed is there itself
  induction fuel with
  | zero => intro l steps h; cases h
  | succ fuel ih =>
    intro l steps h hk
    unfold walk at h ⊢
    cases ha : t.advance true l steps with
    | error e => rw [ha] at h; cases h
    | ok r =>
      rw [ha] at h
      rcases advance_noFollow steps l ha with hf | ⟨k', target, hf, ht⟩
      · rw [hf]
        cases r with
        | place k' =>
          cases h
          exact ⟨k, rfl, hk⟩
        | link d target rest => exact ih _ _ h hk
      · rw [hf]
        refine ⟨k', rfl, ?_⟩
        rw [ht]
        exact Option.some_ne_none _

/-- **A directory that is there** is not created again. -/
theorem createDir_of_isDir (hsteps : p.steps = p.parts) (h : t.isDir p = true) :
    t.createDir p = .error .alreadyExists := by
  obtain ⟨k, hplace, hd⟩ := stat_eq_ok.1 (isDir_eq_true_iff.1 h)
  have hr := toOption_eq_some.1 hplace
  unfold resolve at hr
  have hend : ∃ k', t.resolveSteps false p p.parts = .ok k' ∧ t.get? k' ≠ none := by
    unfold resolveSteps at hr ⊢
    split at hr
    · cases hr
    · next he =>
      rw [if_neg he]
      split at hr
      · cases hr
      · next hc =>
        rw [if_neg hc, ← hsteps]
        refine walk_noFollow _ _ _ hr ?_
        rw [hd]
        exact Option.some_ne_none _
  obtain ⟨k', hr', hsome⟩ := hend
  obtain ⟨e, he⟩ := Option.ne_none_iff_exists'.1 hsome
  unfold createDir
  rw [filter_steps, hr']
  simp only [he]

theorem createDirAll_of_isDir (hsteps : p.steps = p.parts) (hp : p.chars ≠ [])
    (h : t.isDir p = true) : t.createDirAll p = (t, .ok ()) := by
  unfold createDirAll
  rw [createDirs_settle hp (createDir_of_isDir hsteps h) (by decide)]
  unfold settle
  rw [if_pos h]

/-- A directory that has just been created is there. -/
theorem isDir_of_createDir (hsteps : p.steps = p.parts) (h : t.createDir p = .ok t') :
    t'.isDir p = true := by
  have hext : Extends t t' := (adds_createDir (W := ∅) h).toExtends
  obtain ⟨l, hr, hnone, rfl⟩ := createDir_place h
  have hne : l ≠ [] := by
    rintro rfl
    cases hnone
  have hdir : (t.insert l .directory).get? l = some .directory := get?_insert_self hne _
  have hr' := hext.resolveSteps hr
  -- there is no link at its end that would be followed
  have hplace : (t.insert l .directory).resolve p = .ok l := by
    unfold resolve
    rw [hsteps]
    unfold resolveSteps at hr' ⊢
    split at hr'
    · cases hr'
    · next he =>
      rw [if_neg he]
      split at hr'
      · cases hr'
      · next hc =>
        rw [if_neg hc, walk_follow, hr']
        intro k target hk hlink
        rw [hr'] at hk
        cases hk
        rw [hdir] at hlink
        cases hlink
  exact isDir_eq_true_iff.2 (stat_eq_ok.2 ⟨l, toOption_eq_some.2 hplace, hdir⟩)

theorem attempt_isDir (hsteps : p.steps = p.parts) (h : (attempt t p).2 = .ok ()) :
    (attempt t p).1.isDir p = true := by
  unfold attempt at h ⊢
  cases hc : t.createDir p with
  | ok t' => exact isDir_of_createDir hsteps hc
  | error e =>
    rw [hc] at h
    unfold settle at h ⊢
    simp only at h ⊢
    split at h
    · next hd => rw [if_pos hd]; exact hd
    · cases h

/-- **A directory that has been created**, with those that it is in, is there. -/
theorem createDirAll_isDir (hsteps : p.steps = p.parts) (hp : p.chars ≠ [])
    (h : (t.createDirAll p).2 = .ok ()) : (t.createDirAll p).1.isDir p = true := by
  unfold createDirAll at h ⊢
  cases hc : t.createDir p with
  | ok t' =>
    rw [createDirs_ok hp hc]
    exact isDir_of_createDir hsteps hc
  | error e =>
    by_cases he : e = .notFound
    · subst he
      cases hq : p.parent? with
      | none =>
        rw [createDirs_top hp hc hq] at h
        cases h
      | some q =>
        cases hd : createDirs p.chars.length t q with
        | mk t₁ r =>
          rw [createDirs_parent hp hc hq hd] at h ⊢
          cases r with
          | error e => cases h
          | ok _ => exact attempt_isDir hsteps h
    · have hsettle : (settle t p e).2 = .ok () := by
        rwa [createDirs_settle hp hc he] at h
      rw [createDirs_settle hp hc he, settle_fst]
      unfold settle at hsettle
      split at hsettle
      · next hd => exact hd
      · cases hsettle

end LiterateSite.Files.Tree
