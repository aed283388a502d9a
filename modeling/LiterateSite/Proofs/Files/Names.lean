import Mathlib.Data.List.Nodup
import LiterateSite.Proofs.Files.Effect

/-!
# The names in a directory

* `Tree.Distinct`, `Distinct.insert`, `Distinct.erase`: **no place has two entries**, and changes
  keep it so.
* `mem_names`: the names in a directory are those of the places in it that hold something.
* `Distinct.names_nodup`: no name is in a directory twice.
-/

namespace LiterateSite.Files.Tree

variable {t : Tree} {root l : Location} {n : Name}

/-- No place has two entries. -/
def Distinct (t : Tree) : Prop := (t.entries.map Prod.fst).Nodup

instance (t : Tree) : Decidable t.Distinct :=
  inferInstanceAs (Decidable (t.entries.map Prod.fst).Nodup)

theorem mem_put {k l : Location} {e : Entry} (es : List (Location × Entry)) :
    k ∈ (put l e es).map Prod.fst → k = l ∨ k ∈ es.map Prod.fst := by
  induction es with
  | nil => intro h; exact .inl (List.mem_singleton.1 h)
  | cons x rest ih =>
    obtain ⟨j, old⟩ := x
    intro h
    unfold put at h
    split at h
    · rcases List.mem_cons.1 h with rfl | h
      · exact .inr List.mem_cons_self
      · exact .inr (List.mem_cons_of_mem _ h)
    · rcases List.mem_cons.1 h with rfl | h
      · exact .inr List.mem_cons_self
      · exact (ih h).imp_right (List.mem_cons_of_mem _)

/-- **Putting an entry to a place** takes the place of the one that was there. -/
theorem Distinct.insert (h : t.Distinct) (l : Location) (e : Entry) : (t.insert l e).Distinct := by
  unfold Distinct Tree.insert at *
  generalize t.entries = es at h
  induction es with
  | nil => exact List.nodup_singleton _
  | cons x rest ih =>
    obtain ⟨k, old⟩ := x
    obtain ⟨hk, hrest⟩ := List.nodup_cons.1 h
    by_cases hkl : (k == l) = true
    · rw [put, if_pos hkl]
      exact List.nodup_cons.2 ⟨hk, hrest⟩
    · rw [put, if_neg hkl]
      refine List.nodup_cons.2 ⟨fun hmem => ?_, ih hrest⟩
      rcases mem_put rest hmem with rfl | hmem
      · exact hkl (beq_self_eq_true _)
      · exact hk hmem

theorem Distinct.erase (h : t.Distinct) (l : Location) : (t.erase l).Distinct :=
  h.sublist (List.filter_sublist.map _)

theorem childName?_eq_some : childName? root l = some n ↔ l = n :: root := by
  cases l with
  | nil => simp [childName?]
  | cons n' outer =>
    simp only [childName?, List.cons.injEq]
    by_cases h : outer = root
    · simp [h]
    · simp [h]

/-- **The names in a directory** are those of the places in it that hold something. -/
theorem mem_names : n ∈ t.names root ↔ (t.get? (n :: root)).isSome = true := by
  have hget : t.get? (n :: root) = t.entries.lookup (n :: root) := rfl
  rw [hget, List.lookup_isSome_iff]
  unfold names
  rw [List.mem_filterMap]
  simp only [childName?_eq_some, beq_iff_eq, eq_comm (a := n :: root)]

/-- **No name is in a directory twice.** -/
theorem Distinct.names_nodup (h : t.Distinct) (root : Location) : (t.names root).Nodup := by
  have hmap : t.names root = (t.entries.map Prod.fst).filterMap (childName? root) := by
    rw [List.filterMap_map]
    rfl
  rw [hmap]
  refine List.Nodup.filterMap (fun l l' n hl hl' => ?_) h
  exact (childName?_eq_some.1 hl).trans (childName?_eq_some.1 hl').symm

end LiterateSite.Files.Tree
