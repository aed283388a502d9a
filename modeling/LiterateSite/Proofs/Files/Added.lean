import LiterateSite.Proofs.Files.Links
import LiterateSite.Proofs.Files.Names

/-!
# A tree with one more entry

* `Gains`: a tree with an entry at a place where there was nothing. `gains_insert`: putting one
  there.
* `Gains.get?`, `Gains.names`: what is at a place, and the names in the directory of the new entry.
* `Gains.pruned`: without the new entry the tree is the old one, for paths that lead over links.
* `Gains.resolve`, `Gains.stat`, `Gains.read`: **a path that led to something leads to it still.**
-/

namespace LiterateSite.Files.Tree

variable {t t' : Tree} {l k root : Location} {n : Name} {e x : Entry} {p : Path}

/-- The tree `t'` is `t` with an entry at a place where there was nothing. Where the entry stands
among the others is left open. -/
structure Gains (l : Location) (e : Entry) (t t' : Tree) : Prop where
  workDir : t.workDir = t'.workDir
  new : t.get? l = none
  entries : ∃ before after, t.entries = before ++ after ∧ t'.entries = before ++ (l, e) :: after

theorem put_of_lookup {es : List (Location × Entry)} (h : es.lookup l = none) (e : Entry) :
    put l e es = es ++ [(l, e)] := by
  induction es with
  | nil => rfl
  | cons y rest ih =>
    obtain ⟨j, old⟩ := y
    by_cases hj : (l == j) = true
    · rw [List.lookup_cons, hj] at h
      cases h
    · rw [List.lookup_cons, Bool.eq_false_iff.2 hj] at h
      rw [put, if_neg (fun hjl => hj (by rw [eq_of_beq hjl, beq_self_eq_true])), ih h,
        List.cons_append]

/-- **Putting an entry** to a place where there was nothing. -/
theorem gains_insert (h : t.get? l = none) (e : Entry) : Gains l e t (t.insert l e) := by
  have hlookup : t.entries.lookup l = none := by
    cases l with
    | nil => cases h
    | cons n l => exact h
  exact ⟨rfl, h, t.entries, [], (List.append_nil _).symm, put_of_lookup hlookup e⟩

namespace Gains

theorem ne_nil (h : Gains l e t t') : l ≠ [] := by
  rintro rfl
  cases h.new

/-- **What is at a place** with the new entry. -/
theorem get? (h : Gains l e t t') (k : Location) :
    t'.get? k = if k = l then some e else t.get? k := by
  obtain ⟨before, after, ht, ht'⟩ := h.entries
  cases k with
  | nil => exact (if_neg (Ne.symm h.ne_nil)).symm
  | cons m k =>
    have hk : t.get? (m :: k) = (before ++ after).lookup (m :: k) := congrArg _ ht
    have hk' : t'.get? (m :: k) = (before ++ (l, e) :: after).lookup (m :: k) := congrArg _ ht'
    rw [hk, hk', List.lookup_append, List.lookup_append, List.lookup_cons]
    by_cases hkl : m :: k = l
    · -- what stands in front of the new entry is at other places
      have hnew : (before ++ after).lookup l = none := by
        have hnew := h.new
        rwa [← hkl, hk, hkl] at hnew
      have hbefore : before.lookup l = none := by
        rw [List.lookup_append, Option.or_eq_none_iff] at hnew
        exact hnew.1
      rw [if_pos hkl, hkl, hbefore, beq_self_eq_true]
      rfl
    · rw [if_neg hkl, beq_eq_false_iff_ne.2 hkl]

theorem get?_self (h : Gains l e t t') : t'.get? l = some e := by
  rw [h.get?, if_pos rfl]

theorem get?_of_ne (h : Gains l e t t') (hk : k ≠ l) : t'.get? k = t.get? k := by
  rw [h.get?, if_neg hk]

/-- What was there is there still. -/
theorem get?_of_some (h : Gains l e t t') (hk : t.get? k = some x) : t'.get? k = some x := by
  rw [h.get?_of_ne, hk]
  rintro rfl
  rw [h.new] at hk
  cases hk

/-- **The names in the directory** of the new entry are the old ones, and the new one among them. -/
theorem names (h : Gains (n :: root) e t t') :
    ∃ before after, t.names root = before ++ after ∧ t'.names root = before ++ n :: after := by
  obtain ⟨before, after, ht, ht'⟩ := h.entries
  let named : Location × Entry → Option Name := fun y => childName? root y.1
  have hnames : ∀ u : Tree, u.names root = u.entries.filterMap named := fun _ => rfl
  have hself : named (n :: root, e) = some n := childName?_eq_some.2 rfl
  refine ⟨before.filterMap named, after.filterMap named, ?_, ?_⟩
  · rw [hnames, ht, List.filterMap_append]
  · rw [hnames, ht', List.filterMap_append, List.filterMap_cons_some hself]

/-- Without the new entry the tree is the old one, as far as paths lead over it. -/
theorem pruned (h : Gains l e t t') (he : e ≠ .directory) : Pruned {l} t' t := by
  refine ⟨h.workDir.symm, fun k => ?_⟩
  by_cases hk : k = l
  · subst hk
    have hnone : t.shapeAt k = none := by
      unfold shapeAt
      rw [h.new]
    rw [hnone]
    cases e with
    | directory => exact absurd rfl he
    | file content =>
      refine .inl ?_
      unfold shapeAt
      rw [h.get?_self]
    | link target => exact .inr ⟨rfl, rfl, target, shapeAt_link.2 h.get?_self⟩
  · refine .inl ?_
    unfold shapeAt
    rw [h.get?_of_ne hk]

/-- Steps that led to something lead to it still. -/
theorem walk (h : Gains l e t t') (he : e ≠ .directory) {follow : Bool} {fuel : Nat}
    {origin : Location} {steps : List Step} (hw : t.walk follow fuel origin steps = .ok k)
    (hk : t.get? k = some x) : t'.walk follow fuel origin steps = .ok k := by
  rcases (h.pruned he).walk_cases fuel origin steps k hw with hw' | hkl
  · exact hw'
  · rw [Set.mem_singleton_iff.1 hkl, h.new] at hk
    cases hk

/-- **A path that led to something** leads there still. -/
theorem resolve (h : Gains l e t t') (he : e ≠ .directory) (hp : t.resolve p = .ok k)
    (hk : t.get? k = some x) : t'.resolve p = .ok k := by
  rcases (h.pruned he).place?_cases (toOption_eq_some.2 hp) with hp' | hkl
  · exact toOption_eq_some.1 hp'
  · rw [Set.mem_singleton_iff.1 hkl, h.new] at hk
    cases hk

theorem stat (h : Gains l e t t') (he : e ≠ .directory) (hp : t.stat p = .ok x) :
    t'.stat p = .ok x := by
  unfold Tree.stat at hp ⊢
  cases hr : t.resolve p with
  | error err => rw [hr] at hp; cases hp
  | ok k =>
    cases hk : t.get? k with
    | none => simp [hr, hk] at hp
    | some y =>
      simp only [hr, hk, Except.ok.injEq] at hp
      rw [h.resolve he hr hk]
      simp only [h.get?_of_some hk, hp]

theorem isDir (h : Gains l e t t') (he : e ≠ .directory) (hp : t.isDir p = true) :
    t'.isDir p = true := by
  unfold Tree.isDir at hp ⊢
  rw [beq_iff_eq, toOption_eq_some] at hp ⊢
  exact h.stat he hp

/-- A file that could be read has the same content. -/
theorem read (h : Gains l e t t') (he : e ≠ .directory) {content : List UInt8}
    (hp : t.read p = .ok content) : t'.read p = .ok content := by
  unfold Tree.read at hp ⊢
  cases hs : t.stat p with
  | error err => rw [hs] at hp; cases hp
  | ok y =>
    rw [h.stat he hs]
    rwa [hs] at hp

theorem readText (h : Gains l e t t') (he : e ≠ .directory) {text : List Char}
    (hp : t.readText p = .ok text) : t'.readText p = .ok text := by
  unfold Tree.readText at hp ⊢
  cases hr : t.read p with
  | error err => rw [hr] at hp; cases hp
  | ok content =>
    rw [h.read he hr]
    rwa [hr] at hp

end Gains

end LiterateSite.Files.Tree
