import Mathlib.Data.List.TakeWhile
import LiterateSite.Text.Blank

/-!
# Trimming

What is left of a text when characters are dropped from its ends, told without the order in which
they are dropped.

* `dropWhile_eq_iff`, `dropEndWhile_eq_iff`: what is left on one side.
* `Trimmed`, `trimBoth_eq_iff`: **the text between the characters that are dropped**, which neither
  begins nor ends with such a character.
* `trimBoth_eq_nil`: nothing is left of characters that are all dropped.
* `trimBoth_append`, `dropEndWhile_append`: more of these characters at the end make no difference.
-/

namespace LiterateSite.Text

variable {p : Char → Bool} {cs core back : List Char}

/-- What is left when characters are dropped from the beginning. -/
theorem dropWhile_eq_iff : cs.dropWhile p = core ↔
    ∃ front, cs = front ++ core ∧ (∀ c ∈ front, p c = true) ∧ ∀ c ∈ core.head?, p c = false := by
  constructor
  · rintro rfl
    refine ⟨cs.takeWhile p, List.takeWhile_append_dropWhile.symm,
      fun c hc => List.mem_takeWhile_imp hc, fun c hc => ?_⟩
    have hhead := List.head?_dropWhile_not p cs
    rw [Option.mem_def.1 hc] at hhead
    exact hhead
  · rintro ⟨front, rfl, hfront, hcore⟩
    rw [List.dropWhile_append_of_pos hfront]
    cases core with
    | nil => rfl
    | cons c rest => exact List.dropWhile_cons_of_neg (by rw [hcore c rfl]; exact Bool.false_ne_true)

/-- What is left when characters are dropped from the end. -/
theorem dropEndWhile_eq_iff : dropEndWhile p cs = core ↔
    ∃ back, cs = core ++ back ∧ (∀ c ∈ back, p c = true) ∧ ∀ c ∈ core.getLast?, p c = false := by
  unfold dropEndWhile
  rw [List.reverse_eq_iff, dropWhile_eq_iff]
  -- the end of a text is the beginning of the text in reverse
  constructor
  · rintro ⟨front, hcs, hfront, hcore⟩
    refine ⟨front.reverse, ?_, fun c hc => hfront c (List.mem_reverse.1 hc), ?_⟩
    · rw [List.reverse_eq_iff.1 hcs, List.reverse_append, List.reverse_reverse]
    · rwa [List.head?_reverse] at hcore
  · rintro ⟨back, rfl, hback, hcore⟩
    refine ⟨back.reverse, List.reverse_append, fun c hc => hback c (List.mem_reverse.1 hc), ?_⟩
    rwa [List.head?_reverse]

/-- `core` is the text between characters that satisfy `p`, and neither begins nor ends with one. -/
structure Trimmed (p : Char → Bool) (cs core : List Char) : Prop where
  between : ∃ front back, cs = front ++ core ++ back ∧ (∀ c ∈ front, p c = true) ∧
    ∀ c ∈ back, p c = true
  first : ∀ c ∈ core.head?, p c = false
  last : ∀ c ∈ core.getLast?, p c = false

theorem trimmed_trimBoth (p : Char → Bool) (cs : List Char) : Trimmed p cs (trimBoth p cs) := by
  obtain ⟨front, hcs, hfront, hfirst⟩ := dropWhile_eq_iff.1 (Eq.refl (cs.dropWhile p))
  obtain ⟨back, hmid, hback, hlast⟩ := dropEndWhile_eq_iff.1 (Eq.refl (trimBoth p cs))
  refine ⟨⟨front, back, ?_, hfront, hback⟩, fun c hc => hfirst c ?_, hlast⟩
  · rw [List.append_assoc, ← hmid, ← hcs]
  · rw [hmid, List.head?_append, Option.mem_def.1 hc]
    rfl

/-- **What trimming leaves.** -/
theorem trimBoth_eq_iff : trimBoth p cs = core ↔ Trimmed p cs core := by
  refine ⟨fun h => h ▸ trimmed_trimBoth p cs, fun h => ?_⟩
  obtain ⟨front, back, rfl, hfront, hback⟩ := h.between
  unfold trimBoth
  refine dropEndWhile_eq_iff.2 ?_
  by_cases hn : core = []
  · have hall : ∀ c ∈ front ++ core ++ back, p c = true := by
      intro c hc
      rw [hn, List.append_nil] at hc
      exact (List.mem_append.1 hc).elim (hfront c) (hback c)
    exact ⟨[], by rw [hn, List.dropWhile_eq_nil_iff.2 (hn ▸ hall)]; rfl,
      fun c hc => absurd hc List.not_mem_nil, h.last⟩
  · -- what is dropped from the beginning ends where the core begins
    have hfirst : ∀ c ∈ (core ++ back).head?, p c = false := by
      obtain ⟨c, rest, rfl⟩ := List.exists_cons_of_ne_nil hn
      exact h.first
    have hdrop : (front ++ core ++ back).dropWhile p = core ++ back :=
      dropWhile_eq_iff.2 ⟨front, List.append_assoc _ _ _, hfront, hfirst⟩
    exact ⟨back, hdrop, hback, h.last⟩

/-- Of nothing but these characters nothing is left. -/
theorem trimBoth_eq_nil (h : ∀ c ∈ cs, p c = true) : trimBoth p cs = [] :=
  trimBoth_eq_iff.2 ⟨⟨cs, [], by rw [List.append_nil, List.append_nil], h,
    fun _ hc => absurd hc List.not_mem_nil⟩, fun _ hc => absurd hc (Option.not_mem_none _),
    fun _ hc => absurd hc (Option.not_mem_none _)⟩

/-- More of the characters at the end make no difference. -/
theorem trimBoth_append (cs : List Char) (h : ∀ c ∈ back, p c = true) :
    trimBoth p (cs ++ back) = trimBoth p cs := by
  obtain ⟨⟨front, more, hcs, hfront, hmore⟩, hfirst, hlast⟩ := trimmed_trimBoth p cs
  refine trimBoth_eq_iff.2 ⟨⟨front, more ++ back, ?_, hfront, fun c hc => ?_⟩, hfirst, hlast⟩
  · rw [← List.append_assoc, ← hcs]
  · exact (List.mem_append.1 hc).elim (hmore c) (h c)

theorem dropEndWhile_append (cs : List Char) (h : ∀ c ∈ back, p c = true) :
    dropEndWhile p (cs ++ back) = dropEndWhile p cs := by
  obtain ⟨more, hcs, hmore, hlast⟩ := dropEndWhile_eq_iff.1 (Eq.refl (dropEndWhile p cs))
  refine dropEndWhile_eq_iff.2 ⟨more ++ back, ?_, fun c hc => ?_, hlast⟩
  · rw [← List.append_assoc, ← hcs]
  · exact (List.mem_append.1 hc).elim (hmore c) (h c)

end LiterateSite.Text
