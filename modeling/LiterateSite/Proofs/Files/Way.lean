import Mathlib.Data.List.Infix
import LiterateSite.Proofs.Files.Parts
import LiterateSite.Proofs.Files.Shape

/-!
# The way of a path

In a tree without links on the way, a path can be followed on paper: every step goes up or down
from the place before it.

* `stepTo`, `Path.way`, `Path.goal`: the places on the way of a path, and the last of them.
* `way_join`, `goal_join`, `way_below`: the way of a path below another one.
* `NoLink`, `noLink_of_entries`: places without links.
* `read_eq_of_get?`: trees that agree on all places agree on what can be read.
* `advance_congr`, `resolve_congr`, `read_congr`: **trees that agree on the way of a path agree on
  where it leads and on what is there**, and on the error if it leads nowhere.
* `resolve_goal`: **a path that leads anywhere leads to its goal**, over directories.
-/

namespace LiterateSite.Files

/-- The place that a step leads to. -/
def stepTo (l : Location) : Step → Location
  | .up => l.tail
  | .here => l
  | .slash => l
  | .name n => n :: l

/-- The places on a way. -/
def wayFrom (l : Location) : List Step → List Location
  | [] => [l]
  | s :: rest => l :: wayFrom (stepTo l s) rest

namespace Path

/-- The place that a path begins at; relative paths begin at `w`. -/
def origin (w : Location) (p : Path) : Location := if p.isAbsolute then [] else w

/-- The places on the way of a path. -/
def way (w : Location) (p : Path) : List Location := wayFrom (p.origin w) p.parts

/-- The place at the end of the way. -/
def goal (w : Location) (p : Path) : Location := p.parts.foldl stepTo (p.origin w)

end Path

/-! ## Places on a way -/

variable {l k : Location} {steps more : List Step}

theorem self_mem_wayFrom (l : Location) (steps : List Step) : l ∈ wayFrom l steps := by
  cases steps with
  | nil => exact List.mem_cons_self
  | cons s rest => exact List.mem_cons_self

theorem end_mem_wayFrom (steps : List Step) : ∀ l, steps.foldl stepTo l ∈ wayFrom l steps := by
  induction steps with
  | nil => intro l; exact List.mem_cons_self
  | cons s rest ih => intro l; exact List.mem_cons_of_mem _ (ih _)

/-- **A way in two parts.** -/
theorem mem_wayFrom_append (steps : List Step) : ∀ l, k ∈ wayFrom l (steps ++ more) ↔
    k ∈ wayFrom l steps ∨ k ∈ wayFrom (steps.foldl stepTo l) more := by
  induction steps with
  | nil =>
    intro l
    refine ⟨.inr, fun h => ?_⟩
    rcases h with h | h
    · rw [List.mem_singleton.1 h]
      exact self_mem_wayFrom _ _
    · exact h
  | cons s rest ih =>
    intro l
    rw [List.cons_append, wayFrom, wayFrom, List.mem_cons, List.mem_cons, ih, List.foldl_cons,
      or_assoc]

theorem mem_wayFrom_slash (steps : List Step) (l : Location) :
    k ∈ wayFrom l (steps ++ [.slash]) ↔ k ∈ wayFrom l steps := by
  rw [mem_wayFrom_append]
  refine ⟨fun h => ?_, .inl⟩
  rcases h with h | h
  · exact h
  · have hk : k = steps.foldl stepTo l := by
      simpa [wayFrom, stepTo] using h
    rw [hk]
    exact end_mem_wayFrom _ _

namespace Path

variable {p q : Path} {w : Location}

theorem goal_mem_way (w : Location) (p : Path) : p.goal w ∈ p.way w := end_mem_wayFrom _ _

theorem mem_way_steps : k ∈ wayFrom (p.origin w) p.steps ↔ k ∈ p.way w := by
  rw [steps_eq]
  unfold way
  by_cases hs : (p.chars.getLast? == some '/') = true
  · rw [if_pos hs, mem_wayFrom_slash]
  · rw [if_neg hs, List.append_nil]

theorem goal_steps (w : Location) (p : Path) : p.steps.foldl stepTo (p.origin w) = p.goal w := by
  rw [steps_eq, List.foldl_append]
  unfold goal
  split <;> rfl

theorem origin_join (h : q.isAbsolute = false) : (p.join q).origin w = p.origin w := by
  unfold origin
  rw [isAbsolute_join h]

/-- **The goal of a path below another one.** -/
theorem goal_join (h : q.isAbsolute = false) :
    (p.join q).goal w = q.parts.foldl stepTo (p.goal w) := by
  unfold goal
  rw [origin_join h, parts_join h, List.foldl_append]

/-- **The way of a path below another one.** -/
theorem way_join (h : q.isAbsolute = false) :
    k ∈ (p.join q).way w ↔ k ∈ p.way w ∨ k ∈ wayFrom (p.goal w) q.parts := by
  unfold way goal
  rw [origin_join h, parts_join h, mem_wayFrom_append]

variable {cs : List Char}

theorem goal_join_plain (h : PlainName cs) : (p.join ⟨cs⟩).goal w = .text cs :: p.goal w := by
  rw [goal_join (isAbsolute_plain h.no_slash), parts_plain h]
  rfl

theorem way_join_plain (h : PlainName cs) :
    k ∈ (p.join ⟨cs⟩).way w ↔ k ∈ p.way w ∨ k = .text cs :: p.goal w := by
  rw [way_join (isAbsolute_plain h.no_slash), parts_plain h]
  unfold wayFrom wayFrom stepTo
  rw [List.mem_cons, List.mem_singleton]
  constructor
  · rintro (h | rfl | h)
    · exact .inl h
    · exact .inl (goal_mem_way w p)
    · exact .inr h
  · rintro (h | h)
    · exact .inl h
    · exact .inr (.inr h)

/-- **The way of a path some names below another one** goes below that one at the end. -/
theorem way_below {names : List (List Char)} (hn : ∀ cs ∈ names, cs = [] ∨ PlainName cs) :
    ∀ p : Path, k ∈ (names.foldl (fun p cs => p.join ⟨cs⟩) p).way w →
      k ∈ p.way w ∨ p.goal w <:+ k := by
  induction names with
  | nil => intro p h; exact .inl h
  | cons cs rest ih =>
    intro p h
    have hrest := ih (fun cs' h' => hn cs' (List.mem_cons_of_mem _ h')) (p.join ⟨cs⟩) h
    rcases hn cs List.mem_cons_self with rfl | hcs
    · -- an empty name leads nowhere else
      have hparts : (⟨[]⟩ : Path).parts = [] := rfl
      rw [goal_join rfl, way_join rfl, hparts] at hrest
      rcases hrest with (h | h) | h
      · exact .inl h
      · rw [List.mem_singleton.1 h]
        exact .inr List.suffix_rfl
      · exact .inr h
    · rw [goal_join_plain hcs, way_join_plain hcs] at hrest
      rcases hrest with (h | rfl) | h
      · exact .inl h
      · exact .inr (List.suffix_cons _ _)
      · exact .inr ((List.suffix_cons _ _).trans h)

/-- The way to the parent is a part of the way. -/
theorem way_parent? (h : p.parent? = some q) (hq : q.chars ≠ []) (hk : k ∈ q.way w) :
    k ∈ p.way w := by
  obtain ⟨⟨cs, hc⟩, more, hp⟩ := parent?_parts h
  have ho : p.origin w = q.origin w := by
    unfold origin isAbsolute
    rw [hc]
    cases hqc : q.chars with
    | nil => exact absurd hqc hq
    | cons c rest => rfl
  unfold way
  rw [ho, hp, mem_wayFrom_append]
  exact .inl hk

end Path

/-- The entry is a link. -/
def Entry.isLink : Entry → Bool
  | .link _ => true
  | _ => false

namespace Tree

variable {t u : Tree} {p : Path} {follow : Bool} {w : Location}

/-- There is no link at the place. -/
def NoLink (t : Tree) (l : Location) : Prop := ∀ target, t.get? l ≠ some (.link target)

theorem NoLink.sameShape (h : t.NoLink l) (hs : SameShape t u) : u.NoLink l :=
  fun target ht => h target ((hs.link_iff l target).2 ht)

/-! ## Trees that agree on a way -/

/-- **Trees that agree on a way** go on alike, errors included. -/
theorem advance_congr (steps : List Step) : ∀ l, (∀ k ∈ wayFrom l steps, t.get? k = u.get? k) →
    t.advance follow l steps = u.advance follow l steps := by
  induction steps with
  | nil => intro l _; rfl
  | cons s rest ih =>
    intro l h
    have hl : t.get? l = u.get? l := h l (self_mem_wayFrom _ _)
    have hrest := ih (stepTo l s) fun k hk => h k (List.mem_cons_of_mem _ hk)
    unfold advance
    rw [hl]
    cases u.get? l with
    | none => rfl
    | some e =>
      cases e with
      | file content => rfl
      | link target => rfl
      | directory =>
        cases s with
        | up => exact hrest
        | here => exact hrest
        | slash => exact hrest
        | name n =>
          -- whether there is a link is seen before the step is made
          have hn : t.get? (n :: l) = u.get? (n :: l) :=
            h _ (List.mem_cons_of_mem _ (self_mem_wayFrom _ _))
          simp only [hn]
          rw [show t.advance follow (n :: l) rest = u.advance follow (n :: l) rest from hrest]

/-- **A way without links** ends at its goal, if it has an end, and all other places on it are
directories. -/
theorem advance_goal (steps : List Step) : ∀ l, (∀ k ∈ wayFrom l steps, t.NoLink k) → ∀ r,
    t.advance follow l steps = .ok r → r = .place (steps.foldl stepTo l) ∧
      ∀ k ∈ wayFrom l steps, k = steps.foldl stepTo l ∨ t.get? k = some .directory := by
  -- a way that has an end goes on from directories only
  induction steps with
  | nil =>
    intro l _ r h
    refine ⟨(Except.ok.inj h).symm, fun k hk => .inl ?_⟩
    exact List.mem_singleton.1 hk
  | cons s rest ih =>
    intro l hno r h
    have hd : t.get? l = some .directory := directory_of_advance h
    have hrest : t.advance follow (stepTo l s) rest = .ok r := by
      cases s with
      | up => rw [advance_up hd] at h; exact h
      | here => rw [advance_here hd] at h; exact h
      | slash => rw [advance_slash hd] at h; exact h
      | name n =>
        by_cases hn : n.size > 255
        · rw [advance_long hd hn] at h
          cases h
        · have hl := hno (n :: l) (List.mem_cons_of_mem _ (self_mem_wayFrom _ _))
          rw [advance_name hd hn hl] at h
          exact h
    obtain ⟨hr, hway⟩ := ih (stepTo l s) (fun k hk => hno k (List.mem_cons_of_mem _ hk)) r hrest
    refine ⟨hr, fun k hk => ?_⟩
    rcases List.mem_cons.1 hk with rfl | hk
    · exact .inr hd
    · exact hway k hk

theorem walk_congr (fuel : Nat) (h : ∀ k ∈ wayFrom l steps, t.get? k = u.get? k)
    (hno : ∀ k ∈ wayFrom l steps, t.NoLink k) :
    t.walk follow fuel l steps = u.walk follow fuel l steps := by
  cases fuel with
  | zero => rfl
  | succ fuel =>
    unfold walk
    -- there is no link that would lead off the way
    rw [← advance_congr steps l h]
    cases ha : t.advance follow l steps with
    | error e => rfl
    | ok r =>
      rw [(advance_goal steps l hno r ha).1]

theorem walk_goal {fuel : Nat} (hno : ∀ k ∈ wayFrom l steps, t.NoLink k)
    (h : t.walk follow fuel l steps = .ok k) : k = steps.foldl stepTo l ∧
      ∀ k' ∈ wayFrom l steps, k' = k ∨ t.get? k' = some .directory := by
  cases fuel with
  | zero => cases h
  | succ fuel =>
    unfold walk at h
    cases ha : t.advance follow l steps with
    | error e => rw [ha] at h; cases h
    | ok r =>
      obtain ⟨rfl, hway⟩ := advance_goal steps l hno r ha
      rw [ha] at h
      rw [← Except.ok.inj h]
      exact ⟨rfl, hway⟩

/-- In a tree without links there is no link at any place. -/
theorem noLink_of_entries (h : t.entries.all (fun x => !x.2.isLink) = true) (l : Location) :
    t.NoLink l := by
  intro target ht
  unfold get? at ht
  split at ht
  · cases ht
  · have hmem : (l, Entry.link target) ∈ t.entries := by
      generalize t.entries = es at ht
      induction es with
      | nil => cases ht
      | cons x rest ih =>
        obtain ⟨k, e⟩ := x
        rw [List.lookup_cons] at ht
        split at ht
        · next hk =>
          rw [eq_of_beq hk, Option.some.inj ht]
          exact List.mem_cons_self
        · exact List.mem_cons_of_mem _ (ih ht)
    have hlink := List.all_eq_true.1 h _ hmem
    cases hlink

/-! ## Trees that agree on all places -/

theorem walk_eq_of_get? (h : ∀ l, t.get? l = u.get? l) (fuel : Nat) :
    ∀ l steps, t.walk follow fuel l steps = u.walk follow fuel l steps := by
  induction fuel with
  | zero => intro l steps; rfl
  | succ fuel ih =>
    intro l steps
    unfold walk
    rw [advance_congr steps l fun k _ => h k]
    cases u.advance follow l steps with
    | error e => rfl
    | ok r =>
      cases r with
      | place k => rfl
      | link directory target rest => exact ih _ _

/-- **Trees that agree on all places** agree on what can be read. -/
theorem read_eq_of_get? (hw : t.workDir = u.workDir) (h : ∀ l, t.get? l = u.get? l) (p : Path) :
    t.read p = u.read p := by
  have hr : t.resolve p = u.resolve p := by
    unfold resolve resolveSteps
    rw [hw, walk_eq_of_get? h]
  unfold Tree.read stat
  rw [hr]
  cases u.resolve p with
  | error e => rfl
  | ok l => simp only [h l]

/-! ## Trees that agree on the way of a path -/

/-- **Trees that agree on the way of a path** agree on where it leads. -/
theorem resolve_congr (hw : t.workDir = u.workDir) (h : ∀ k ∈ p.way t.workDir, t.get? k = u.get? k)
    (hno : ∀ k ∈ p.way t.workDir, t.NoLink k) : t.resolve p follow = u.resolve p follow := by
  unfold resolve resolveSteps
  rw [← hw]
  split
  · rfl
  · split
    · rfl
    · exact walk_congr _ (fun k hk => h k (Path.mem_way_steps.1 hk))
        fun k hk => hno k (Path.mem_way_steps.1 hk)

/-- **A path without links on its way** leads to its goal, if it leads anywhere, and all other
places on the way are directories. -/
theorem resolve_goal (hno : ∀ k ∈ p.way t.workDir, t.NoLink k)
    (h : t.resolve p follow = .ok l) : l = p.goal t.workDir ∧
      ∀ k ∈ p.way t.workDir, k = l ∨ t.get? k = some .directory := by
  unfold resolve resolveSteps at h
  split at h
  · cases h
  · split at h
    · cases h
    · obtain ⟨hl, hway⟩ := walk_goal (fun k hk => hno k (Path.mem_way_steps.1 hk)) h
      refine ⟨hl.trans (Path.goal_steps _ _), fun k hk => ?_⟩
      exact hway k (Path.mem_way_steps.2 hk)

theorem place?_goal (hno : ∀ k ∈ p.way t.workDir, t.NoLink k)
    (h : t.place? p follow = some l) : l = p.goal t.workDir :=
  (resolve_goal hno (toOption_eq_some.1 h)).1

/-- Following a link at its end makes no difference to a path without links on its way. -/
theorem resolve_follow (hno : ∀ k ∈ p.way t.workDir, t.NoLink k) :
    t.resolve p = t.resolve p false := by
  unfold resolve resolveSteps
  split
  · rfl
  · split
    · rfl
    · -- the way ends at the goal, where there is no link
      refine walk_follow _ _ _ fun k target hk => ?_
      have hgoal := (walk_goal (fun k hk => hno k (Path.mem_way_steps.1 hk)) hk).1
      have hend : k = p.goal t.workDir := hgoal.trans (Path.goal_steps _ _)
      exact hend ▸ hno _ (Path.goal_mem_way _ _) target

theorem stat_congr (hw : t.workDir = u.workDir) (h : ∀ k ∈ p.way t.workDir, t.get? k = u.get? k)
    (hno : ∀ k ∈ p.way t.workDir, t.NoLink k) : t.stat p follow = u.stat p follow := by
  unfold stat
  rw [← resolve_congr hw h hno]
  cases hr : t.resolve p follow with
  | error e => rfl
  | ok l =>
    have hl := h l ((resolve_goal hno hr).1 ▸ Path.goal_mem_way _ _)
    simp only
    rw [hl]

/-- **Trees that agree on the way of a path** agree on what can be read there. -/
theorem read_congr (hw : t.workDir = u.workDir) (h : ∀ k ∈ p.way t.workDir, t.get? k = u.get? k)
    (hno : ∀ k ∈ p.way t.workDir, t.NoLink k) : t.read p = u.read p := by
  unfold Tree.read
  rw [stat_congr hw h hno]

theorem readText_congr (hw : t.workDir = u.workDir)
    (h : ∀ k ∈ p.way t.workDir, t.get? k = u.get? k)
    (hno : ∀ k ∈ p.way t.workDir, t.NoLink k) : t.readText p = u.readText p := by
  unfold readText
  rw [read_congr hw h hno]

theorem isDir_congr (hw : t.workDir = u.workDir) (h : ∀ k ∈ p.way t.workDir, t.get? k = u.get? k)
    (hno : ∀ k ∈ p.way t.workDir, t.NoLink k) : t.isDir p = u.isDir p := by
  unfold isDir
  rw [stat_congr hw h hno]

/-- **All places on the way of a directory are directories.** -/
theorem way_of_isDir (hno : ∀ k ∈ p.way t.workDir, t.NoLink k) (h : t.isDir p = true) :
    t.resolve p = .ok (p.goal t.workDir) ∧ ∀ k ∈ p.way t.workDir, t.get? k = some .directory := by
  obtain ⟨l, hl, hd⟩ := isDir_iff.1 h
  have hr := toOption_eq_some.1 hl
  obtain ⟨rfl, hway⟩ := resolve_goal hno hr
  refine ⟨hr, fun k hk => ?_⟩
  rcases hway k hk with rfl | h
  · exact hd
  · exact h

/-- All places on the way of a file are directories, but for the file itself. -/
theorem way_of_read (hno : ∀ k ∈ p.way t.workDir, t.NoLink k) {content : List UInt8}
    (h : t.read p = .ok content) : t.get? (p.goal t.workDir) = some (.file content) ∧
      ∀ k ∈ p.way t.workDir, k = p.goal t.workDir ∨ t.get? k = some .directory := by
  obtain ⟨l, hl, hf⟩ := content?_eq_some.1 (read_eq_ok.1 h)
  obtain ⟨rfl, hway⟩ := resolve_goal hno (toOption_eq_some.1 hl)
  exact ⟨hf, hway⟩

end Tree

end LiterateSite.Files
