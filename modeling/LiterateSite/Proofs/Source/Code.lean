import Mathlib.Data.List.TakeWhile
import LiterateSite.Source.Example

/-!
# The code of a source

* `codeLines`: the lines that are neither blank nor documentation, without blanks at their ends.
* `codes`: the code of segments that have any.
* `joinLines_codes_segmentsFrom`: what the segments of lines hold, with the code of the segment
  that they continue in front.
* `joinLines_codes_read`: **the code of the segments is the code of the lines after the header**,
  in their order, none left out and none twice.
-/

namespace LiterateSite.Text

@[simp] theorem joinLines_nil : joinLines [] = [] := rfl

@[simp] theorem joinLines_singleton (a : List Char) : joinLines [a] = a := by
  simp [joinLines, List.intercalate]

theorem joinLines_cons_cons (a b : List Char) (rest : List (List Char)) :
    joinLines (a :: b :: rest) = a ++ '\n' :: joinLines (b :: rest) := by
  simp [joinLines, List.intercalate]

/-- **Two texts with a line end between them** may stand as one. -/
theorem joinLines_merge (a b : List Char) (rest : List (List Char)) :
    joinLines ((a ++ '\n' :: b) :: rest) = joinLines (a :: b :: rest) := by
  rw [joinLines_cons_cons]
  cases rest with
  | nil => rw [joinLines_singleton, joinLines_singleton]
  | cons c later => simp only [joinLines_cons_cons, List.append_assoc, List.cons_append]

theorem joinLines_eq_nil {texts : List (List Char)} (hn : ∀ x ∈ texts, x ≠ [])
    (h : joinLines texts = []) : texts = [] := by
  cases texts with
  | nil => rfl
  | cons a rest =>
    have ha := hn a List.mem_cons_self
    cases rest with
    | nil => exact absurd (by rwa [joinLines_singleton] at h) ha
    | cons b later =>
      rw [joinLines_cons_cons, List.append_eq_nil_iff] at h
      exact absurd h.1 ha

/-- A text behind others has a line end in front of it. -/
theorem joinLines_concat {texts : List (List Char)} (h : texts ≠ []) (a : List Char) :
    joinLines (texts ++ [a]) = joinLines texts ++ '\n' :: a := by
  induction texts with
  | nil => exact absurd rfl h
  | cons x rest ih =>
    cases rest with
    | nil => rw [List.singleton_append, joinLines_cons_cons, joinLines_singleton,
        joinLines_singleton]
    | cons y later =>
      rw [List.cons_append, List.cons_append, joinLines_cons_cons, joinLines_cons_cons,
        ← List.cons_append, ih (List.cons_ne_nil _ _), List.append_assoc, List.cons_append]

/-- Texts that are the same when they are put together are so after another text, too, as long as
none of them is empty. -/
theorem joinLines_cons_congr {xs ys : List (List Char)} (hx : ∀ x ∈ xs, x ≠ [])
    (hy : ∀ y ∈ ys, y ≠ []) (h : joinLines xs = joinLines ys) (a : List Char) :
    joinLines (a :: xs) = joinLines (a :: ys) := by
  cases xs with
  | nil => rw [joinLines_eq_nil hy h.symm]
  | cons x xs =>
    cases ys with
    | nil => rw [joinLines_eq_nil hx h]
    | cons y ys => rw [joinLines_cons_cons, joinLines_cons_cons, h]

/-- What is left of a text that is not blank without the blanks at its end. -/
theorem trimEnd_ne_nil {cs : List Char} (h : isBlankText cs = false) : trimEnd cs ≠ [] := by
  intro he
  unfold trimEnd dropEndWhile at he
  rw [List.reverse_eq_nil_iff, List.dropWhile_eq_nil_iff] at he
  unfold isBlankText at h
  rw [List.all_eq_false] at h
  obtain ⟨c, hc, hb⟩ := h
  exact hb (he c (List.mem_reverse.2 hc))

end LiterateSite.Text

namespace LiterateSite.Source

open Text

/-- The code lines, without blanks at their ends. -/
def codeLines (lines : List (List Char)) : List (List Char) :=
  (lines.filter fun line => classify line = .code).map trimEnd

/-- The code of segments that have any. -/
def codes (segments : List Segment) : List (List Char) :=
  (segments.map Segment.code).filter (· ≠ [])

variable {current : Segment} {line : List Char} {rest : List (List Char)}

theorem codes_cons_of_empty {s : Segment} (h : s.code = []) (segments : List Segment) :
    codes (s :: segments) = codes segments := by
  unfold codes
  rw [List.map_cons, List.filter_cons_of_neg (by simp [h])]

theorem codes_cons_of_code {s : Segment} (h : s.code ≠ []) (segments : List Segment) :
    codes (s :: segments) = s.code :: codes segments := by
  unfold codes
  rw [List.map_cons, List.filter_cons_of_pos (by simp [h])]

theorem codes_ne_nil (segments : List Segment) : ∀ x ∈ codes segments, x ≠ [] := by
  intro x hx
  unfold codes at hx
  rw [List.mem_filter] at hx
  exact of_decide_eq_true hx.2

theorem not_blank_of_code (h : classify line = .code) : isBlankText line = false := by
  unfold classify at h
  by_cases hb : isBlankText line = true
  · rw [if_pos hb] at h
    cases h
  · exact Bool.eq_false_iff.2 hb

/-- **A code line is not empty** without the blanks at its end. -/
theorem codeLines_ne_nil (lines : List (List Char)) : ∀ x ∈ codeLines lines, x ≠ [] := by
  intro x hx
  unfold codeLines at hx
  rw [List.mem_map] at hx
  obtain ⟨line, hl, rfl⟩ := hx
  rw [List.mem_filter] at hl
  exact trimEnd_ne_nil (not_blank_of_code (of_decide_eq_true hl.2))

theorem codeLines_cons_of_code (h : classify line = .code) (rest : List (List Char)) :
    codeLines (line :: rest) = trimEnd line :: codeLines rest := by
  unfold codeLines
  rw [List.filter_cons_of_pos (by simp [h]), List.map_cons]

theorem codeLines_cons_of_not_code (h : classify line ≠ .code) (rest : List (List Char)) :
    codeLines (line :: rest) = codeLines rest := by
  unfold codeLines
  rw [List.filter_cons_of_neg (by simp [h])]

theorem segmentsFrom_blank (h : classify line = .blank) :
    segmentsFrom current (line :: rest) = current :: segmentsFrom {} rest := by
  rw [segmentsFrom]; simp only [h]

theorem segmentsFrom_documentation (h : classify line = .documentation) :
    segmentsFrom current (line :: rest) = segmentsFrom (current.document line) rest := by
  rw [segmentsFrom]; simp only [h]

theorem segmentsFrom_code (h : classify line = .code) :
    segmentsFrom current (line :: rest) = segmentsFrom (current.addCode line) rest := by
  rw [segmentsFrom]; simp only [h]

/-- The code of a segment, if it has any, in front of code lines. -/
def pending (current : Segment) (lines : List (List Char)) : List (List Char) :=
  if current.code = [] then codeLines lines else current.code :: codeLines lines

theorem pending_of_empty (h : current.code = []) (lines : List (List Char)) :
    pending current lines = codeLines lines := if_pos h

theorem pending_of_code (h : current.code ≠ []) (lines : List (List Char)) :
    pending current lines = current.code :: codeLines lines := if_neg h

theorem addCode_ne_nil (h : classify line = .code) (current : Segment) :
    (current.addCode line).code ≠ [] := by
  unfold Segment.addCode
  by_cases hc : current.code.isEmpty = true
  · simp only [hc, if_true]
    exact trimEnd_ne_nil (not_blank_of_code h)
  · simp [hc]

/-- A code line that is appended to a segment could as well follow it. -/
theorem joinLines_pending_addCode (h : classify line = .code) :
    joinLines (pending (current.addCode line) rest) = joinLines (pending current (line :: rest)) := by
  rw [pending_of_code (addCode_ne_nil h current)]
  unfold Segment.addCode
  by_cases hc : current.code = []
  · rw [pending_of_empty hc, codeLines_cons_of_code h]
    simp only [hc, List.isEmpty_nil, if_true]
  · rw [pending_of_code hc, codeLines_cons_of_code h]
    simp only [List.isEmpty_iff, hc, if_false]
    exact joinLines_merge _ _ _

/-- **The code of the segments** from a segment on is its own code and that of the lines. -/
theorem joinLines_codes_segmentsFrom (lines : List (List Char)) : ∀ current : Segment,
    joinLines (codes (segmentsFrom current lines)) = joinLines (pending current lines) := by
  -- on the lines, for every segment that may be in progress when they begin
  induction lines with
  | nil =>
    intro current
    unfold segmentsFrom
    by_cases hc : current.code = []
    · rw [pending_of_empty hc]
      by_cases he : current.isEmpty = true
      · rw [if_pos he]; rfl
      · rw [if_neg he, codes_cons_of_empty hc]; rfl
    · have he : ¬ current.isEmpty = true := by
        unfold Segment.isEmpty
        simp [hc]
      rw [pending_of_code hc, if_neg he, codes_cons_of_code hc]
      rfl
  | cons line rest ih =>
    intro current
    cases hk : classify line with
    | blank =>
      -- the segment in progress ends here
      have hl : codeLines (line :: rest) = codeLines rest :=
        codeLines_cons_of_not_code (by rw [hk]; decide) rest
      have hrest : joinLines (codes (segmentsFrom {} rest)) = joinLines (codeLines rest) := ih {}
      rw [segmentsFrom_blank hk]
      by_cases hc : current.code = []
      · rw [codes_cons_of_empty hc, pending_of_empty hc, hl, hrest]
      · rw [codes_cons_of_code hc, pending_of_code hc, hl]
        exact joinLines_cons_congr (codes_ne_nil _) (codeLines_ne_nil _) hrest _
    | documentation =>
      -- the code of the segment in progress stays as it is
      have hl : codeLines (line :: rest) = codeLines rest :=
        codeLines_cons_of_not_code (by rw [hk]; decide) rest
      rw [segmentsFrom_documentation hk, ih]
      unfold pending
      rw [hl]
      rfl
    | code => rw [segmentsFrom_code hk, ih, joinLines_pending_addCode hk]

/-- **No code line is lost, doubled, moved or changed** by reading a source. -/
theorem joinLines_codes_read (text : List Char) (headerLines : Nat) :
    joinLines (codes (Example.read text headerLines).segments) =
      joinLines (codeLines ((lines text).drop headerLines)) :=
  joinLines_codes_segmentsFrom _ {}

end LiterateSite.Source
