import LiterateSite.Pattern.Basic

/-!
# What a pattern matches

A pattern told by rules, one for each form, without the order in which its ways are tried and
without the sets of positions that have been seen.

* `Pattern.Leads`: a pattern leads from one position to another.
* `leads_of_mem_steps`, `only_again`, `leads_of_mem_upTo`: what the three repetitions reach.
* `Pattern.leads_of_mem_ends`: **every position that a pattern is said to end at is one that it
  leads to**, for every pattern.
-/

namespace LiterateSite

open Cursor

/-! ## Lists of positions -/

namespace Cursor

variable {cur : Cursor}

theorem mem_of_mem_unseen {seen : Std.HashSet Nat} {l : List Cursor}
    (h : cur ∈ unseen seen l) : cur ∈ l := by
  induction l generalizing seen with
  | nil => exact h
  | cons head rest ih =>
    unfold unseen at h
    split at h
    · exact List.mem_cons_of_mem _ (ih h)
    · rcases List.mem_cons.1 h with rfl | h
      · exact List.mem_cons_self
      · exact List.mem_cons_of_mem _ (ih h)

theorem mem_of_mem_distinct {l : List Cursor} (h : cur ∈ distinct l) : cur ∈ l := by
  unfold distinct at h
  split at h
  · exact h
  · exact h
  · exact mem_of_mem_unseen h

end Cursor

namespace Pattern

/-- **The pattern leads** from the first position to the second: what lies between is a match of
it. -/
inductive Leads : Pattern → Cursor → Cursor → Prop
  | empty {cur : Cursor} : Leads .empty cur cur
  | one {set : CharSet} {cur : Cursor} {c : Char} {rest : List Char} (hr : cur.rest = c :: rest)
      (hs : set.contains c = true) : Leads (.one set) cur (cur.advance c rest)
  | look {condition : Assertion} {cur : Cursor} (h : condition.holds cur = true) :
      Leads (.look condition) cur cur
  | seq {p q : Pattern} {cur mid next : Cursor} (first : Leads p cur mid)
      (second : Leads q mid next) : Leads (.seq p q) cur next
  | left {p q : Pattern} {cur next : Cursor} (h : Leads p cur next) : Leads (.alt p q) cur next
  | right {p q : Pattern} {cur next : Cursor} (h : Leads q cur next) : Leads (.alt p q) cur next
  | once {greedy : Bool} {p : Pattern} {cur next : Cursor} (h : Leads p cur next) :
      Leads (.plus greedy p) cur next
  | again {greedy : Bool} {p : Pattern} {cur mid next : Cursor}
      (sooner : Leads (.plus greedy p) cur mid) (last : Leads p mid next) :
      Leads (.plus greedy p) cur next
  | zero {p : Pattern} {cur : Cursor} : Leads (.exactly 0 p) cur cur
  | succ {n : Nat} {p : Pattern} {cur mid next : Cursor} (first : Leads p cur mid)
      (later : Leads (.exactly n p) mid next) : Leads (.exactly (n + 1) p) cur next
  | stop {greedy : Bool} {n : Nat} {p : Pattern} {cur : Cursor} : Leads (.atMost greedy n p) cur cur
  | more {greedy : Bool} {n : Nat} {p : Pattern} {cur mid next : Cursor} (first : Leads p cur mid)
      (later : Leads (.atMost greedy n p) mid next) : Leads (.atMost greedy (n + 1) p) cur next

end Pattern

open Pattern (Leads)

/-! ## Repetitions -/

variable {p : Pattern} {step : Cursor → List Cursor} {cur here next : Cursor}

theorem leads_of_mem_after {set : CharSet} {greedy : Bool} {rest : List Char} {before : List Cursor}
    (hh : here = cur ∨ Leads (.plus greedy (.one set)) cur here) (hr : here.rest = rest)
    (h : next ∈ after set here rest before) :
    next ∈ before ∨ Leads (.plus greedy (.one set)) cur next := by
  induction rest generalizing here before with
  | nil => exact Or.inl h
  | cons c rest ih =>
    unfold after at h
    split at h
    · rename_i hc
      have hnext : Leads (.plus greedy (.one set)) cur (here.advance c rest) := by
        rcases hh with rfl | hh
        · exact .once (.one hr hc)
        · exact .again hh (.one hr hc)
      rcases ih (Or.inr hnext) rfl h with hm | hm
      · rcases List.mem_cons.1 hm with rfl | hm
        · exact Or.inr hnext
        · exact Or.inl hm
      · exact Or.inr hm
    · exact Or.inl h

/-- So many steps lead from one of the positions on. -/
theorem leads_of_mem_steps (hstep : ∀ a, ∀ b ∈ step a, Leads p a b) {n : Nat} {starts : List Cursor}
    (h : next ∈ steps step n starts) : ∃ c ∈ starts, Leads (.exactly n p) c next := by
  induction n generalizing starts with
  | zero => exact ⟨next, h, .zero⟩
  | succ n ih =>
    cases starts with
    | nil => exact absurd h List.not_mem_nil
    | cons c rest =>
      obtain ⟨b, hb, hn⟩ := ih h
      obtain ⟨a, ha, hb⟩ := List.mem_flatMap.1 (mem_of_mem_distinct hb)
      exact ⟨a, ha, .succ (hstep a b hb) hn⟩

/-- All ends that have been found satisfy `P`. -/
def Reached.Only (P : Cursor → Prop) (r : Reached) : Prop := ∀ c ∈ r.found, P c

namespace Reached

variable {P : Cursor → Prop} {r : Reached}

theorem Only.add (h : r.Only P) (hc : P here) : (r.add here).Only P := by
  intro c hm
  rcases List.mem_cons.1 hm with rfl | hm
  · exact hc
  · exact h c hm

theorem Only.mark (h : r.Only P) : (r.mark here).Only P := h

/-- What every member of the list keeps holds in the end. -/
theorem Only.foldl {visit : Reached → Cursor → Reached} {l : List Cursor}
    (hv : ∀ r, ∀ c ∈ l, r.Only P → (visit r c).Only P) (h : r.Only P) :
    (l.foldl visit r).Only P :=
  List.foldlRecOn l visit h fun r hr c hc => hv r c hc hr

/-- Repetitions find only what each further one keeps. -/
theorem only_again (hstep : ∀ a, P a → ∀ b ∈ step a, P b) {greedy : Bool} {fuel : List Char}
    (hc : P here) (h : r.Only P) : (again step greedy fuel here r).Only P := by
  induction fuel generalizing here r with
  | nil => exact h.add hc
  | cons _ fuel ih =>
    have hvisit : ∀ r : Reached, ∀ next ∈ step here, r.Only P →
        (if here.consumed < next.consumed && !r.seen.contains next.consumed then
          again step greedy fuel next (r.mark next) else r).Only P := by
      intro r next hn hr
      split
      · exact ih (hstep here hc next hn) hr.mark
      · exact hr
    unfold again
    split
    · exact (h.foldl hvisit).add hc
    · exact (h.add hc).foldl hvisit

theorem only_repeated (hfirst : ∀ b ∈ step cur, P b) (hstep : ∀ a, P a → ∀ b ∈ step a, P b)
    {greedy : Bool} : (repeated step greedy cur).Only P := by
  unfold repeated
  refine Only.foldl (fun r next hn hr => ?_) fun c hc => absurd hc List.not_mem_nil
  split
  · exact hr
  · exact only_again hstep (hfirst next hn) hr.mark

end Reached

/-- What is found is found before or led to in so many steps or fewer. -/
theorem leads_of_mem_upTo (hstep : ∀ a, ∀ b ∈ step a, Leads p a b) {greedy : Bool} {n : Nat}
    {seen : List (Std.HashSet Nat)} {found : List Cursor} :
    ∀ c ∈ (upTo step greedy n here seen found).1,
      c ∈ found ∨ Leads (.atMost greedy n p) here c := by
  induction n generalizing here seen found with
  | zero =>
    intro c hm
    rcases List.mem_cons.1 hm with rfl | hm
    · exact Or.inr .stop
    · exact Or.inl hm
  | succ n ih =>
    let visit := fun (state : List Cursor × List (Std.HashSet Nat)) (next : Cursor) =>
      if (state.2.headD ∅).contains next.consumed then state
      else
        let visited := upTo step greedy n next state.2.tail state.1
        (visited.1, (state.2.headD ∅).insert next.consumed :: visited.2)
    let P := fun c => c ∈ found ∨ Leads (.atMost greedy (n + 1) p) here c
    have hfold : ∀ start : List Cursor × List (Std.HashSet Nat), (∀ c ∈ start.1, P c) →
        ∀ c ∈ ((step here).foldl visit start).1, P c := by
      intro start hs
      refine List.foldlRecOn (motive := fun s => ∀ c ∈ s.1, P c) _ visit hs ?_
      intro state hstate next hn
      unfold visit
      split
      · exact hstate
      · intro c hc
        rcases ih c hc with hc | hc
        · exact hstate c hc
        · exact Or.inr (.more (hstep here next hn) hc)
    have hadd : ∀ found : List Cursor, (∀ c ∈ found, P c) → ∀ c ∈ here :: found, P c := by
      intro found hf c hm
      rcases List.mem_cons.1 hm with rfl | hm
      · exact Or.inr .stop
      · exact hf c hm
    unfold upTo
    split
    · exact hadd _ (hfold (found, seen) fun c hc => Or.inl hc)
    · exact hfold (here :: found, seen) (hadd found fun c hc => Or.inl hc)

/-! ## Patterns -/

namespace Pattern

theorem ends_plus_one (greedy : Bool) (set : CharSet) (cur : Cursor) :
    (plus greedy (one set)).ends cur =
      if greedy then after set cur cur.rest [] else (after set cur cur.rest []).reverse := rfl

theorem ends_plus (hp : ∀ set, p ≠ one set) (greedy : Bool) (cur : Cursor) :
    (plus greedy p).ends cur = (Reached.repeated p.ends greedy cur).found.reverse := by
  cases p with
  | one set => exact absurd rfl (hp set)
  | _ => rfl

/-- **A pattern leads** to every position that it can end at. -/
theorem leads_of_mem_ends (p : Pattern) (cur : Cursor) : ∀ next ∈ p.ends cur, p.Leads cur next := by
  induction p generalizing cur with
  | empty =>
    intro next hn
    rw [List.mem_singleton.1 hn]
    exact .empty
  | one set =>
    intro next hn
    unfold ends at hn
    split at hn
    · exact absurd hn List.not_mem_nil
    · split at hn
      · rw [List.mem_singleton.1 hn]
        exact .one ‹_› ‹_›
      · exact absurd hn List.not_mem_nil
  | look condition =>
    intro next hn
    unfold ends at hn
    split at hn
    · rw [List.mem_singleton.1 hn]
      exact .look ‹_›
    · exact absurd hn List.not_mem_nil
  | seq p q ihp ihq =>
    intro next hn
    obtain ⟨mid, hm, hn⟩ := List.mem_flatMap.1 (mem_of_mem_distinct hn)
    exact .seq (ihp cur mid hm) (ihq mid next hn)
  | alt p q ihp ihq =>
    intro next hn
    rcases List.mem_append.1 (mem_of_mem_distinct hn) with hn | hn
    · exact .left (ihp cur next hn)
    · exact .right (ihq cur next hn)
  | plus greedy p ih =>
    intro next hn
    by_cases hp : ∃ set, p = one set
    · -- a repeated character is read off the text
      obtain ⟨set, rfl⟩ := hp
      have hm : next ∈ after set cur cur.rest [] := by
        rw [ends_plus_one] at hn
        split at hn
        · exact hn
        · exact List.mem_reverse.1 hn
      exact (leads_of_mem_after (Or.inl rfl) rfl hm).resolve_left List.not_mem_nil
    · rw [ends_plus fun set h => hp ⟨set, h⟩] at hn
      exact Reached.only_repeated (P := fun c => Leads (plus greedy p) cur c)
        (fun b hb => .once (ih cur b hb)) (fun a ha b hb => .again ha (ih a b hb)) next
        (List.mem_reverse.1 hn)
  | exactly n p ih =>
    intro next hn
    obtain ⟨c, hc, hl⟩ := leads_of_mem_steps ih hn
    rwa [List.mem_singleton.1 hc] at hl
  | atMost greedy n p ih =>
    intro next hn
    exact (leads_of_mem_upTo ih next (List.mem_reverse.1 (mem_of_mem_distinct hn))).resolve_left
      List.not_mem_nil

end Pattern

end LiterateSite
