import Mathlib.Data.Set.Basic
import LiterateSite.Proofs.Files.Effect
import LiterateSite.Proofs.Files.Way

/-!
# Creating directories

* `Tree.Grows`: a tree after directories have come to be at some of the places where nothing was.
* `createDirAll_grows`: **creating a directory and those that it is in** does that on the way of its
  path, and nothing else, whether it succeeds or not.
* `Tree.AgreeOff`, `createDirAll_agree`: **on trees that agree on the way, it ends alike.**
* `write_goal`, `plain_of_unlink`: where a file is that has been written or removed.
* `write_agree`: **on trees that agree on the way, writing ends alike.**
-/

namespace LiterateSite.Files.Tree

variable {t u t' : Tree} {p : Path} {l : Location} {W X : Set Location}

/-- The tree `t'` is `t` with directories at some places of `W` where nothing was. -/
structure Grows (W : Set Location) (t t' : Tree) : Prop where
  workDir : t'.workDir = t.workDir
  places : ∀ l, t'.get? l = t.get? l ∨
    (l ∈ W ∧ t.get? l = none ∧ t'.get? l = some .directory)
  names : ∀ root, (∀ n, n :: root ∉ W) → t'.names root = t.names root

/-- The trees agree on all places but some. -/
structure AgreeOff (X : Set Location) (t u : Tree) : Prop where
  workDir : t.workDir = u.workDir
  places : ∀ l, l ∉ X → t.get? l = u.get? l

theorem Grows.refl (W : Set Location) (t : Tree) : Grows W t t :=
  ⟨rfl, fun _ => .inl rfl, fun _ _ => rfl⟩

theorem Grows.trans {t'' : Tree} (h : Grows W t t') (h' : Grows W t' t'') : Grows W t t'' := by
  refine ⟨h'.workDir.trans h.workDir, fun l => ?_,
    fun root hr => (h'.names root hr).trans (h.names root hr)⟩
  -- a directory that has come to be at first is there already later on
  rcases h'.places l with h₂ | ⟨hl, hn, hd⟩
  · rcases h.places l with h₁ | ⟨hl, hn, hd⟩
    · exact .inl (h₂.trans h₁)
    · exact .inr ⟨hl, hn, h₂.trans hd⟩
  · rcases h.places l with h₁ | ⟨-, -, hd'⟩
    · exact .inr ⟨hl, h₁.symm.trans hn, hd⟩
    · rw [hn] at hd'
      cases hd'

theorem Grows.mono {V : Set Location} (h : Grows W t t') (hv : W ⊆ V) : Grows V t t' := by
  refine ⟨h.workDir, fun l => ?_, fun root hr => h.names root fun n hn => hr n (hv hn)⟩
  rcases h.places l with h | ⟨hl, hn⟩
  · exact .inl h
  · exact .inr ⟨hv hl, hn⟩

theorem Grows.noLink (h : Grows W t t') (hl : t.NoLink l) : t'.NoLink l := by
  intro target ht
  rcases h.places l with h | ⟨-, -, hd⟩
  · exact hl target (h.symm.trans ht)
  · rw [hd] at ht
    cases ht

/-- What is there stays as it is. -/
theorem Grows.get?_of_some (h : Grows W t t') {e : Entry} (he : t.get? l = some e) :
    t'.get? l = some e := by
  rcases h.places l with h | ⟨-, hn, -⟩
  · exact h.trans he
  · rw [hn] at he
    cases he

theorem grows_insert (hl : l ∈ W) (hn : t.get? l = none) :
    Grows W t (t.insert l .directory) := by
  have hne : l ≠ [] := by
    rintro rfl
    cases hn
  refine ⟨rfl, fun k => ?_, fun root hr => names_insert (fun n h => hr n (h ▸ hl)) _⟩
  by_cases hk : k = l
  · rw [hk]
    exact .inr ⟨hl, hn, get?_insert_self hne _⟩
  · exact .inl (get?_insert_of_ne hne _ hk)

theorem AgreeOff.refl (X : Set Location) (t : Tree) : AgreeOff X t t := ⟨rfl, fun _ _ => rfl⟩

theorem AgreeOff.trans {v : Tree} (h : AgreeOff X t u) (h' : AgreeOff X u v) : AgreeOff X t v :=
  ⟨h.workDir.trans h'.workDir, fun l hl => (h.places l hl).trans (h'.places l hl)⟩

theorem AgreeOff.mono (h : AgreeOff X t u) (hx : X ⊆ W) : AgreeOff W t u :=
  ⟨h.workDir, fun l hl => h.places l fun hin => hl (hx hin)⟩

theorem AgreeOff.insert (h : AgreeOff X t u) (hl : l ≠ []) (e : Entry) :
    AgreeOff X (t.insert l e) (u.insert l e) := by
  refine ⟨h.workDir, fun k hk => ?_⟩
  by_cases hkl : k = l
  · rw [hkl, get?_insert_self hl, get?_insert_self hl]
  · rw [get?_insert_of_ne hl _ hkl, get?_insert_of_ne hl _ hkl, h.places k hk]

/-! ## One directory -/

theorem filter_steps (p : Path) : p.steps.filter (· != .slash) = p.parts := by
  rw [Path.steps_eq, List.filter_append]
  have hparts : p.parts.filter (· != .slash) = p.parts := by
    refine List.filter_eq_self.2 fun s hs => ?_
    unfold Path.parts at hs
    obtain ⟨part, -, hp⟩ := List.mem_filterMap.1 hs
    unfold Path.step? at hp
    split_ifs at hp
    · cases hp; rfl
    · cases hp; rfl
    · cases hp; rfl
  rw [hparts]
  split <;> simp

theorem createDir_resolve_goal (hno : ∀ k ∈ p.way t.workDir, t.NoLink k)
    (h : t.resolveSteps false p p.parts = .ok l) : l = p.goal t.workDir := by
  unfold resolveSteps at h
  split at h
  · cases h
  · split at h
    · cases h
    · exact (walk_goal hno h).1

theorem createDir_resolve_congr (hw : t.workDir = u.workDir)
    (h : ∀ k ∈ p.way t.workDir, t.get? k = u.get? k)
    (hno : ∀ k ∈ p.way t.workDir, t.NoLink k) :
    t.resolveSteps false p p.parts = u.resolveSteps false p p.parts := by
  unfold resolveSteps
  rw [← hw]
  split
  · rfl
  · split
    · rfl
    · exact walk_congr _ h hno

/-- **A directory that has been created** is at the goal of its path, where nothing was. -/
theorem createDir_ok (hno : ∀ k ∈ p.way t.workDir, t.NoLink k) (h : t.createDir p = .ok t') :
    t.get? (p.goal t.workDir) = none ∧ t' = t.insert (p.goal t.workDir) .directory := by
  unfold createDir at h
  rw [filter_steps] at h
  cases hr : t.resolveSteps false p p.parts with
  | error e => rw [hr] at h; cases h
  | ok l =>
    rw [hr] at h
    have hl := createDir_resolve_goal hno hr
    cases hg : t.get? l with
    | some e => simp [hg] at h
    | none =>
      simp only [hg, Except.ok.injEq] at h
      rw [← hl]
      exact ⟨hg, h.symm⟩

theorem createDir_grows (hno : ∀ k ∈ p.way t.workDir, t.NoLink k) (h : t.createDir p = .ok t') :
    Grows {k | k ∈ p.way t.workDir} t t' := by
  obtain ⟨hn, rfl⟩ := createDir_ok hno h
  exact grows_insert (Path.goal_mem_way _ _) hn

/-- **On trees that agree on the way**, creating a directory ends alike. -/
theorem createDir_agree (h : AgreeOff X t u) (hx : ∀ k ∈ p.way t.workDir, k ∉ X)
    (hno : ∀ k ∈ p.way t.workDir, t.NoLink k) :
    (∃ e, t.createDir p = .error e ∧ u.createDir p = .error e) ∨
      ∃ t' u', t.createDir p = .ok t' ∧ u.createDir p = .ok u' ∧ AgreeOff X t' u' := by
  have hr := createDir_resolve_congr h.workDir (fun k hk => h.places k (hx k hk)) hno
  unfold createDir
  rw [filter_steps, ← hr]
  cases hl : t.resolveSteps false p p.parts with
  | error e => exact .inl ⟨e, rfl, rfl⟩
  | ok l =>
    have hgoal := createDir_resolve_goal hno hl
    have hget : t.get? l = u.get? l := h.places l (hx l (hgoal ▸ Path.goal_mem_way _ _))
    simp only
    rw [← hget]
    cases hg : t.get? l with
    | some e => exact .inl ⟨_, rfl, rfl⟩
    | none =>
      have hne : l ≠ [] := by
        rintro rfl
        cases hg
      exact .inr ⟨_, _, rfl, rfl, h.insert hne _⟩

/-! ## A directory and those that it is in -/

/-- The end of an attempt that has failed: a directory that is there already will do. -/
def settle (t : Tree) (p : Path) (e : IoError) : Tree × Except IoError Unit :=
  if t.isDir p then (t, .ok ()) else (t, .error e)

/-- The last attempt, when the directory around is there. -/
def attempt (t : Tree) (p : Path) : Tree × Except IoError Unit :=
  match t.createDir p with
  | .ok t => (t, .ok ())
  | .error e => settle t p e

variable {fuel : Nat}

theorem createDirs_empty (hp : p.chars = []) (fuel : Nat) (t : Tree) :
    (createDirs fuel t p).1 = t := by
  cases fuel with
  | zero => rfl
  | succ fuel =>
    unfold createDirs
    rw [if_pos (List.isEmpty_iff.2 hp)]

theorem createDirs_ok (hp : p.chars ≠ []) (h : t.createDir p = .ok t') :
    createDirs (fuel + 1) t p = (t', .ok ()) := by
  unfold createDirs
  rw [if_neg (by rwa [List.isEmpty_iff]), h]

theorem createDirs_settle (hp : p.chars ≠ []) {e : IoError} (h : t.createDir p = .error e)
    (he : e ≠ .notFound) : createDirs (fuel + 1) t p = settle t p e := by
  unfold createDirs
  rw [if_neg (by rwa [List.isEmpty_iff]), h]
  cases e with
  | notFound => exact absurd rfl he
  | _ => rfl

theorem createDirs_top (hp : p.chars ≠ []) (h : t.createDir p = .error .notFound)
    (hq : p.parent? = none) : createDirs (fuel + 1) t p = (t, .error .notFound) := by
  unfold createDirs
  rw [if_neg (by rwa [List.isEmpty_iff]), h, hq]

theorem createDirs_parent (hp : p.chars ≠ []) (h : t.createDir p = .error .notFound) {q : Path}
    (hq : p.parent? = some q) {t₁ : Tree} {r : Except IoError Unit}
    (h₁ : createDirs fuel t q = (t₁, r)) : createDirs (fuel + 1) t p =
      match r with
      | .error e => (t₁, .error e)
      | .ok _ => attempt t₁ p := by
  unfold createDirs
  rw [if_neg (by rwa [List.isEmpty_iff]), h, hq]
  simp only [h₁]
  cases r <;> rfl

theorem settle_fst (t : Tree) (p : Path) (e : IoError) : (settle t p e).1 = t := by
  unfold settle
  split <;> rfl

theorem attempt_grows (hno : ∀ k ∈ p.way t.workDir, t.NoLink k) :
    Grows {k | k ∈ p.way t.workDir} t (attempt t p).1 := by
  unfold attempt
  cases hc : t.createDir p with
  | ok t' => exact createDir_grows hno hc
  | error e => rw [settle_fst]; exact Grows.refl _ _

/-- Where the directory around is created is on the way, too. -/
theorem createDirs_parent_grows (hno : ∀ k ∈ p.way t.workDir, t.NoLink k) {q : Path}
    (hq : p.parent? = some q)
    (h : (∀ k ∈ q.way t.workDir, t.NoLink k) →
      Grows {k | k ∈ q.way t.workDir} t (createDirs fuel t q).1) :
    Grows {k | k ∈ p.way t.workDir} t (createDirs fuel t q).1 := by
  by_cases hqe : q.chars = []
  · rw [createDirs_empty hqe]; exact Grows.refl _ _
  · have hsub : ∀ k ∈ q.way t.workDir, k ∈ p.way t.workDir :=
      fun k hk => Path.way_parent? hq hqe hk
    exact (h fun k hk => hno k (hsub k hk)).mono hsub

theorem createDirs_grows (fuel : Nat) : ∀ (t : Tree) (p : Path),
    (∀ k ∈ p.way t.workDir, t.NoLink k) →
      Grows {k | k ∈ p.way t.workDir} t (createDirs fuel t p).1 := by
  -- on the fuel, since the directory around is created with less of it
  induction fuel with
  | zero => intro t p _; exact Grows.refl _ _
  | succ fuel ih =>
    intro t p hno
    by_cases hp : p.chars = []
    · rw [createDirs_empty hp]; exact Grows.refl _ _
    cases hc : t.createDir p with
    | ok t' => rw [createDirs_ok hp hc]; exact createDir_grows hno hc
    | error e =>
      by_cases he : e = .notFound
      · subst he
        cases hq : p.parent? with
        | none => rw [createDirs_top hp hc hq]; exact Grows.refl _ _
        | some q =>
          -- first the directory around, and then another attempt
          have hgrow := createDirs_parent_grows hno hq (ih t q)
          cases h₁ : createDirs fuel t q with
          | mk t₁ r =>
            rw [h₁] at hgrow
            rw [createDirs_parent hp hc hq h₁]
            cases r with
            | error e => exact hgrow
            | ok _ =>
              have hw : t₁.workDir = t.workDir := hgrow.workDir
              have h₂ := attempt_grows (p := p) fun k hk => hgrow.noLink (hno k (hw ▸ hk))
              rw [hw] at h₂
              exact hgrow.trans h₂
      · rw [createDirs_settle hp hc he, settle_fst]; exact Grows.refl _ _

/-- **Creating a directory and those that it is in** makes the tree grow on the way of the path. -/
theorem createDirAll_grows (hno : ∀ k ∈ p.way t.workDir, t.NoLink k) :
    Grows {k | k ∈ p.way t.workDir} t (t.createDirAll p).1 := createDirs_grows _ t p hno

/-! ## Two trees -/

theorem settle_agree (h : AgreeOff X t u) (hx : ∀ k ∈ p.way t.workDir, k ∉ X)
    (hno : ∀ k ∈ p.way t.workDir, t.NoLink k) (e : IoError) :
    (settle t p e).2 = (settle u p e).2 ∧ AgreeOff X (settle t p e).1 (settle u p e).1 := by
  have hd := isDir_congr h.workDir (fun k hk => h.places k (hx k hk)) hno
  refine ⟨?_, by rwa [settle_fst, settle_fst]⟩
  unfold settle
  rw [hd]
  split <;> rfl

theorem attempt_agree (h : AgreeOff X t u) (hx : ∀ k ∈ p.way t.workDir, k ∉ X)
    (hno : ∀ k ∈ p.way t.workDir, t.NoLink k) :
    (attempt t p).2 = (attempt u p).2 ∧ AgreeOff X (attempt t p).1 (attempt u p).1 := by
  unfold attempt
  rcases createDir_agree h hx hno with ⟨e, ht, hu⟩ | ⟨t', u', ht, hu, h'⟩
  · rw [ht, hu]
    exact settle_agree h hx hno e
  · rw [ht, hu]
    exact ⟨rfl, h'⟩

theorem createDirs_agree (fuel : Nat) : ∀ (t u : Tree) (p : Path), AgreeOff X t u →
    (∀ k ∈ p.way t.workDir, k ∉ X) → (∀ k ∈ p.way t.workDir, t.NoLink k) →
      (createDirs fuel t p).2 = (createDirs fuel u p).2 ∧
        AgreeOff X (createDirs fuel t p).1 (createDirs fuel u p).1 := by
  -- the trees agree on the way, so both runs go up, stop and come back at the same places
  induction fuel with
  | zero => intro t u p h _ _; exact ⟨rfl, h⟩
  | succ fuel ih =>
    intro t u p h hx hno
    by_cases hp : p.chars = []
    · unfold createDirs
      rw [if_pos (List.isEmpty_iff.2 hp), if_pos (List.isEmpty_iff.2 hp)]
      exact ⟨rfl, h⟩
    rcases createDir_agree h hx hno with ⟨e, ht, hu⟩ | ⟨t', u', ht, hu, h'⟩
    · by_cases he : e = .notFound
      · subst he
        cases hq : p.parent? with
        | none =>
          rw [createDirs_top hp ht hq, createDirs_top hp hu hq]
          exact ⟨rfl, h⟩
        | some q =>
          -- the trees agree after the directory around has been created
          have hsub : q.chars ≠ [] → ∀ k ∈ q.way t.workDir, k ∈ p.way t.workDir :=
            fun hqe k hk => Path.way_parent? hq hqe hk
          have hparent : (createDirs fuel t q).2 = (createDirs fuel u q).2 ∧
              AgreeOff X (createDirs fuel t q).1 (createDirs fuel u q).1 := by
            by_cases hqe : q.chars = []
            · refine ⟨?_, by rwa [createDirs_empty hqe, createDirs_empty hqe]⟩
              cases fuel with
              | zero => rfl
              | succ fuel =>
                unfold createDirs
                rw [if_pos (List.isEmpty_iff.2 hqe), if_pos (List.isEmpty_iff.2 hqe)]
            · exact ih t u q h (fun k hk => hx k (hsub hqe k hk))
                fun k hk => hno k (hsub hqe k hk)
          have hgrow : Grows {k | k ∈ p.way t.workDir} t (createDirs fuel t q).1 :=
            createDirs_parent_grows hno hq (createDirs_grows fuel t q)
          obtain ⟨hr, hagree⟩ := hparent
          cases h₁ : createDirs fuel t q with
          | mk t₁ r =>
            cases h₂ : createDirs fuel u q with
            | mk u₁ r' =>
              rw [h₁, h₂] at hr hagree
              rw [h₁] at hgrow
              simp only at hr hagree hgrow
              subst hr
              rw [createDirs_parent hp ht hq h₁, createDirs_parent hp hu hq h₂]
              cases r with
              | error e => exact ⟨rfl, hagree⟩
              | ok _ =>
                have hw : t₁.workDir = t.workDir := hgrow.workDir
                exact attempt_agree hagree (fun k hk => hx k (hw ▸ hk))
                  fun k hk => hgrow.noLink (hno k (hw ▸ hk))
      · rw [createDirs_settle hp ht he, createDirs_settle hp hu he]
        exact settle_agree h hx hno e
    · rw [createDirs_ok hp ht, createDirs_ok hp hu]
      exact ⟨rfl, h'⟩

/-- **On trees that agree on the way**, creating a directory and those that it is in ends alike. -/
theorem createDirAll_agree (h : AgreeOff X t u) (hx : ∀ k ∈ p.way t.workDir, k ∉ X)
    (hno : ∀ k ∈ p.way t.workDir, t.NoLink k) :
    (t.createDirAll p).2 = (u.createDirAll p).2 ∧
      AgreeOff X (t.createDirAll p).1 (u.createDirAll p).1 := createDirs_agree _ t u p h hx hno

/-! ## Writing and removing -/

/-- A file that has been written is at the goal of its path, where no directory was. -/
theorem write_goal (hno : ∀ k ∈ p.way t.workDir, t.NoLink k) {content : List UInt8}
    (h : t.write p content = .ok t') : t.Plain p ∧ t.place? p = some (p.goal t.workDir) ∧
      t' = t.insert (p.goal t.workDir) (.file content) := by
  unfold write at h
  cases hr : t.resolve p with
  | error e => rw [hr] at h; cases h
  | ok l =>
    obtain ⟨rfl, -⟩ := resolve_goal hno hr
    -- the goal is no link, so it is written there and not elsewhere
    have hl := hno _ (Path.goal_mem_way _ _)
    rw [hr] at h
    have hins : t' = t.insert (p.goal t.workDir) (.file content) ∧
        t.shapeAt (p.goal t.workDir) = none := by
      unfold shapeAt
      cases hg : t.get? (p.goal t.workDir) with
      | none => simp only [hg, Except.ok.injEq] at h; exact ⟨h.symm, rfl⟩
      | some e =>
        cases e with
        | directory => simp [hg] at h
        | file old => simp only [hg, Except.ok.injEq] at h; exact ⟨h.symm, rfl⟩
        | link target => exact absurd hg (hl target)
    refine ⟨fun k hk => ?_, toOption_eq_some.2 hr, hins.1⟩
    rw [place?_goal hno hk]
    exact hins.2

/-- A path whose end has been removed led to a file. -/
theorem plain_of_unlink (hno : ∀ k ∈ p.way t.workDir, t.NoLink k) (h : t.unlink p = .ok t') :
    t.Plain p := by
  intro l hl
  have hgoal := place?_goal hno hl
  have hr : t.resolve p false = .ok l := toOption_eq_some.1 hl
  unfold unlink at h
  rw [hr] at h
  unfold shapeAt
  cases hg : t.get? l with
  | none => rfl
  | some e =>
    cases e with
    | file content => rfl
    | directory => simp [hg] at h
    | link target => exact absurd hg (hno l (hgoal ▸ Path.goal_mem_way _ _) target)

/-- **On trees that agree on the way**, writing ends alike. -/
theorem write_agree (h : AgreeOff X t u) (hx : ∀ k ∈ p.way t.workDir, k ∉ X)
    (hno : ∀ k ∈ p.way t.workDir, t.NoLink k) (content : List UInt8) :
    (∃ e, t.write p content = .error e ∧ u.write p content = .error e) ∨
      ∃ t' u', t.write p content = .ok t' ∧ u.write p content = .ok u' ∧ AgreeOff X t' u' := by
  have hr : t.resolve p = u.resolve p :=
    resolve_congr h.workDir (fun k hk => h.places k (hx k hk)) hno
  unfold write
  rw [← hr]
  cases hl : t.resolve p with
  | error e => exact .inl ⟨e, rfl, rfl⟩
  | ok l =>
    have hgoal := (resolve_goal hno hl).1
    have hget : t.get? l = u.get? l := h.places l (hx l (hgoal ▸ Path.goal_mem_way _ _))
    simp only
    rw [← hget]
    cases hg : t.get? l with
    | none =>
      have hne : l ≠ [] := by rintro rfl; cases hg
      exact .inr ⟨_, _, rfl, rfl, h.insert hne _⟩
    | some e =>
      cases e with
      | directory => exact .inl ⟨_, rfl, rfl⟩
      | file old =>
        have hne : l ≠ [] := by rintro rfl; cases hg
        exact .inr ⟨_, _, rfl, rfl, h.insert hne _⟩
      | link target =>
        exact absurd hg (hno l (hgoal ▸ Path.goal_mem_way _ _) target)

end LiterateSite.Files.Tree
