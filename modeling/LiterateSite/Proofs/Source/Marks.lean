import LiterateSite.Proofs.Text.Trim
import LiterateSite.Source.Line

/-!
# Documentation lines

What the kinds of lines look like, and what the text of a documentation line is.

* `Marked`: a line of blanks, a marker, and a rest that stands apart from the marker.
* `classify_eq_blank_iff`, `classify_eq_documentation_iff`: **the kinds of lines by their form.**
* `Marked.stripDocumentation_eq`: **the text of a documentation line** is what trimming leaves of the
  rest.
* `documentation_of_space`: so that a text is found again behind a marker and a space.
-/

namespace LiterateSite.Source

open Text

/-- The marks that documentation begins with. -/
def markers : List (List Char) := [['/', '/'], ['#']]

/-- The form of a documentation line: blanks, a marker, and a rest that is empty or begins with a
blank. -/
structure Marked (line blanks marker rest : List Char) : Prop where
  parts : line = blanks ++ marker ++ rest
  blank : ∀ c ∈ blanks, isBlank c = true
  marker_mem : marker ∈ markers
  detached : ∀ c ∈ rest.head?, isBlank c = true

variable {line blanks marker rest text : List Char}

/-! ## Markers -/

theorem marker_ne_nil (h : marker ∈ markers) : marker ≠ [] := by
  rintro rfl
  revert h
  decide

/-- No character of a marker is blank. -/
theorem not_blank_of_marker (h : marker ∈ markers) : ∀ c ∈ marker, isBlank c = false := by
  have hall : ∀ m ∈ markers, m.any isBlank = false := by decide
  exact fun c hc => Bool.eq_false_iff.2 (List.any_eq_false.1 (hall marker h) c hc)

theorem afterMarker?_eq_some {cs : List Char} :
    afterMarker? cs = some rest ↔ ∃ marker ∈ markers, cs = marker ++ rest := by
  constructor
  · intro h
    unfold afterMarker? at h
    split at h
    · exact ⟨['/', '/'], by decide, by rw [← Option.some.inj h]; rfl⟩
    · exact ⟨['#'], by decide, by rw [← Option.some.inj h]; rfl⟩
    · exact absurd h.symm (Option.some_ne_none _)
  · rintro ⟨marker, hm, rfl⟩
    unfold markers at hm
    simp only [List.mem_cons, List.not_mem_nil, or_false] at hm
    rcases hm with rfl | rfl
    · rfl
    · rfl

theorem isDetached_iff : isDetached rest = true ↔ ∀ c ∈ rest.head?, isBlank c = true := by
  cases rest with
  | nil => exact ⟨fun _ c hc => absurd hc (Option.not_mem_none c), fun _ => rfl⟩
  | cons d rest =>
    exact ⟨fun h c hc => Option.some.inj hc ▸ h, fun h => h d rfl⟩

/-! ## Kinds of lines -/

theorem Marked.not_blank (h : Marked line blanks marker rest) : isBlankText line = false := by
  obtain ⟨c, hc⟩ := List.exists_mem_of_ne_nil _ (marker_ne_nil h.marker_mem)
  refine List.all_eq_false.2 ⟨c, ?_, ?_⟩
  · rw [h.parts]
    exact List.mem_append_left _ (List.mem_append_right _ hc)
  · rw [not_blank_of_marker h.marker_mem c hc]
    exact Bool.false_ne_true

/-- What is left of a documentation line without its blanks begins with the marker. -/
theorem Marked.trimStart_eq (h : Marked line blanks marker rest) :
    trimStart line = marker ++ rest := by
  refine dropWhile_eq_iff.2 ⟨blanks, by rw [h.parts, List.append_assoc], h.blank, fun c hc => ?_⟩
  obtain ⟨d, tail, rfl⟩ := List.exists_cons_of_ne_nil (marker_ne_nil h.marker_mem)
  exact not_blank_of_marker h.marker_mem c (List.mem_of_mem_head? hc)

theorem classify_eq_blank_iff : classify line = .blank ↔ ∀ c ∈ line, isBlank c = true := by
  rw [← List.all_eq_true]
  show _ ↔ isBlankText line = true
  unfold classify
  split
  · simp [*]
  · rename_i hb
    refine ⟨fun h => ?_, fun h => absurd h hb⟩
    split at h
    · split at h <;> cases h
    · cases h

/-- **Documentation lines** are those of the form. -/
theorem classify_eq_documentation_iff :
    classify line = .documentation ↔ ∃ blanks marker rest, Marked line blanks marker rest := by
  constructor
  · intro h
    unfold classify at h
    split at h
    · cases h
    · split at h
      · rename_i rest hrest
        split at h
        · rename_i hd
          obtain ⟨marker, hm, hcs⟩ := afterMarker?_eq_some.1 hrest
          obtain ⟨blanks, hline, hblank, -⟩ := dropWhile_eq_iff.1 hcs
          exact ⟨blanks, marker, rest, by rw [hline, List.append_assoc], hblank, hm,
            isDetached_iff.1 hd⟩
        · cases h
      · cases h
  · rintro ⟨blanks, marker, rest, h⟩
    have hafter : afterMarker? (trimStart line) = some rest :=
      afterMarker?_eq_some.2 ⟨marker, h.marker_mem, h.trimStart_eq⟩
    unfold classify
    rw [h.not_blank, if_neg Bool.false_ne_true, hafter]
    exact if_pos (isDetached_iff.2 h.detached)

/-- The kind of a line depends on its form only. -/
theorem classify_congr {other : List Char}
    (hb : classify line = .blank ↔ classify other = .blank)
    (hd : classify line = .documentation ↔ classify other = .documentation) :
    classify line = classify other := by
  cases hl : classify line with
  | blank => exact (hb.1 hl).symm
  | documentation => exact (hd.1 hl).symm
  | code =>
    cases ho : classify other with
    | blank => rw [hb.2 ho] at hl; cases hl
    | documentation => rw [hd.2 ho] at hl; cases hl
    | code => rfl

/-! ## The text of a documentation line -/

/-- **The text of a documentation line** is what trimming leaves of the rest. -/
theorem Marked.stripDocumentation_eq (h : Marked line blanks marker rest) :
    stripDocumentation line = trimBoth isSurround rest := by
  obtain ⟨pad, hrest, hpad, hlast⟩ := dropEndWhile_eq_iff.1 (Eq.refl (trimEnd rest))
  -- the marker has no blanks, so trimming at the end stays behind it
  have htrim : trim line = marker ++ trimEnd rest := by
    unfold trim
    rw [h.trimStart_eq]
    refine dropEndWhile_eq_iff.2 ⟨pad, by rw [List.append_assoc, ← hrest], hpad, fun c hc => ?_⟩
    rw [List.getLast?_append, Option.mem_def, Option.or_eq_some_iff] at hc
    rcases hc with hc | ⟨-, hc⟩
    · exact hlast c hc
    · exact not_blank_of_marker h.marker_mem c (List.mem_of_getLast? hc)
  have hafter : afterMarker? (trim line) = some (trimEnd rest) :=
    afterMarker?_eq_some.2 ⟨marker, h.marker_mem, htrim⟩
  unfold stripDocumentation
  simp only [hafter, Option.getD_some]
  have hsurround : ∀ c ∈ pad, isSurround c = true := by
    intro c hc
    unfold isSurround
    rw [hpad c hc, Bool.or_true]
  calc trimBoth isSurround (trimEnd rest) = trimBoth isSurround (trimEnd rest ++ pad) :=
        (trimBoth_append _ hsurround).symm
    _ = trimBoth isSurround rest := by rw [← hrest]

/-- **A text behind a marker and a space** is found again. -/
theorem documentation_of_space (hblank : ∀ c ∈ blanks, isBlank c = true) (hm : marker ∈ markers)
    (hfirst : ∀ c ∈ text.head?, isSurround c = false)
    (hlast : ∀ c ∈ text.getLast?, isSurround c = false) :
    classify (blanks ++ marker ++ ' ' :: text) = .documentation ∧
      stripDocumentation (blanks ++ marker ++ ' ' :: text) = text := by
  have hspace : isBlank ' ' = true := by decide
  have hmarked : Marked (blanks ++ marker ++ ' ' :: text) blanks marker (' ' :: text) :=
    ⟨rfl, hblank, hm, fun c hc => Option.some.inj hc ▸ hspace⟩
  -- of the rest, the space is dropped and nothing else
  have htext : Trimmed isSurround (' ' :: text) text :=
    ⟨⟨[' '], [], by simp, List.all_eq_true.1 (by decide), fun c hc => absurd hc List.not_mem_nil⟩,
      hfirst, hlast⟩
  refine ⟨classify_eq_documentation_iff.2 ⟨_, _, _, hmarked⟩, ?_⟩
  rw [hmarked.stripDocumentation_eq]
  exact trimBoth_eq_iff.2 htext

end LiterateSite.Source
