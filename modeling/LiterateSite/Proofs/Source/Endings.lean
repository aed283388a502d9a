import Mathlib.Data.List.Forall2
import LiterateSite.Proofs.Source.Code
import LiterateSite.Proofs.Source.Marks
import LiterateSite.Proofs.Text.Lines

/-!
# Line ends and blanks at the ends of lines

A source reads the same however its lines end.

* `Padded`: a line with blanks behind it.
* `classify_padded`, `stripDocumentation_padded`: they change neither kind nor text of a line.
* `segmentsFrom_padded`: nor what is read from lines, by induction on the lines.
* `withCrlf`, `lines_withCrlf`: another way to end lines gives **the same lines, padded**.
* `read_line_ends`: **neither line ends nor blanks at the ends of lines matter.**
-/

namespace LiterateSite.Source

open Text

/-- The line is another line with blanks behind it. -/
def Padded (padded line : List Char) : Prop :=
  ∃ pad, padded = line ++ pad ∧ ∀ c ∈ pad, isBlank c = true

variable {padded line blanks marker rest : List Char} {current : Segment}

theorem Padded.refl (line : List Char) : Padded line line :=
  ⟨[], (List.append_nil line).symm, fun _ hc => absurd hc List.not_mem_nil⟩

theorem Padded.cons (h : Padded padded line) (c : Char) : Padded (c :: padded) (c :: line) := by
  obtain ⟨pad, rfl, hpad⟩ := h
  exact ⟨pad, rfl, hpad⟩

/-- A line is itself, padded, without the blanks at its end. -/
theorem padded_trimEnd (line : List Char) : Padded line (trimEnd line) := by
  obtain ⟨pad, hline, hpad, -⟩ := dropEndWhile_eq_iff.1 (Eq.refl (trimEnd line))
  exact ⟨pad, hline, hpad⟩

/-! ## Lines -/

theorem Marked.pad (h : Marked line blanks marker rest) {pad : List Char}
    (hpad : ∀ c ∈ pad, isBlank c = true) : Marked (line ++ pad) blanks marker (rest ++ pad) where
  parts := by rw [h.parts, List.append_assoc]
  blank := h.blank
  marker_mem := h.marker_mem
  detached c hc := by
    rw [List.head?_append, Option.mem_def, Option.or_eq_some_iff] at hc
    rcases hc with hc | ⟨-, hc⟩
    · exact h.detached c hc
    · exact hpad c (List.mem_of_mem_head? hc)

/-- The marker of a padded documentation line stands in the line itself. -/
theorem Marked.unpad {pad : List Char} (h : Marked (line ++ pad) blanks marker rest)
    (hpad : ∀ c ∈ pad, isBlank c = true) : ∃ rest, Marked line blanks marker rest := by
  rcases List.append_eq_append_iff.1 h.parts with ⟨more, hmark, hrest⟩ | ⟨more, hline, hrest⟩
  · -- all that would stand in the pad is the end of the marker, which is not blank
    have hnil : more = [] := by
      rcases List.eq_nil_or_concat more with hn | ⟨sooner, c, rfl⟩
      · exact hn
      · have hlast : (blanks ++ marker).getLast? = some c := by
          rw [hmark, List.concat_eq_append, ← List.append_assoc, List.getLast?_concat]
        rw [List.getLast?_append_of_ne_nil _ (marker_ne_nil h.marker_mem)] at hlast
        have hblank : isBlank c = true := hpad c (by rw [hrest]; simp)
        rw [not_blank_of_marker h.marker_mem c (List.mem_of_getLast? hlast)] at hblank
        cases hblank
    refine ⟨[], ?_, h.blank, h.marker_mem, fun c hc => absurd hc (Option.not_mem_none c)⟩
    rw [hmark, hnil, List.append_nil, List.append_nil]
  · refine ⟨more, hline, h.blank, h.marker_mem, fun c hc => h.detached c ?_⟩
    rw [hrest, List.head?_append, Option.mem_def.1 hc]
    rfl

theorem classify_padded (h : Padded padded line) : classify padded = classify line := by
  obtain ⟨pad, rfl, hpad⟩ := h
  refine classify_congr ?_ ?_
  · rw [classify_eq_blank_iff, classify_eq_blank_iff, List.forall_mem_append]
    exact and_iff_left hpad
  · rw [classify_eq_documentation_iff, classify_eq_documentation_iff]
    constructor
    · rintro ⟨blanks, marker, rest, hm⟩
      obtain ⟨rest, hm⟩ := hm.unpad hpad
      exact ⟨blanks, marker, rest, hm⟩
    · rintro ⟨blanks, marker, rest, hm⟩
      exact ⟨blanks, marker, rest ++ pad, hm.pad hpad⟩

theorem stripDocumentation_padded (h : Padded padded line) :
    stripDocumentation padded = stripDocumentation line := by
  obtain ⟨pad, rfl, hpad⟩ := h
  have htrim : trim (line ++ pad) = trim line := trimBoth_append line hpad
  unfold stripDocumentation
  rw [htrim]

theorem trimEnd_padded (h : Padded padded line) : trimEnd padded = trimEnd line := by
  obtain ⟨pad, rfl, hpad⟩ := h
  exact dropEndWhile_append line hpad

/-! ## Lists of lines -/

/-- **Blanks at the ends of lines** change nothing of the segments. -/
theorem segmentsFrom_padded {paddeds lines : List (List Char)}
    (h : List.Forall₂ Padded paddeds lines) (current : Segment) :
    segmentsFrom current paddeds = segmentsFrom current lines := by
  induction h generalizing current with
  | nil => rfl
  | @cons padded line _ _ hp _ ih =>
    have hkind := classify_padded hp
    cases hk : classify line with
    | blank => rw [segmentsFrom_blank (hkind.trans hk), segmentsFrom_blank hk, ih]
    | documentation =>
      have hdoc : current.document padded = current.document line := by
        unfold Segment.document
        rw [stripDocumentation_padded hp]
      rw [segmentsFrom_documentation (hkind.trans hk), segmentsFrom_documentation hk, hdoc, ih]
    | code =>
      have hcode : current.addCode padded = current.addCode line := by
        unfold Segment.addCode
        rw [trimEnd_padded hp]
      rw [segmentsFrom_code (hkind.trans hk), segmentsFrom_code hk, hcode, ih]

theorem firstDocumentation_padded {paddeds lines : List (List Char)}
    (h : List.Forall₂ Padded paddeds lines) :
    firstDocumentation paddeds = firstDocumentation lines := by
  unfold firstDocumentation
  induction h with
  | nil => rfl
  | @cons padded line _ _ hp _ ih =>
    rw [List.find?_cons, List.find?_cons, classify_padded hp]
    cases classify line == .documentation with
    | true => exact stripDocumentation_padded hp
    | false => exact ih

/-! ## Line ends -/

/-- The text with every `\n` written as `\r\n`. -/
def withCrlf (text : List Char) : List Char :=
  text.flatMap fun c => if c = '\n' then ['\r', '\n'] else [c]

theorem withCrlf_newline (text : List Char) :
    withCrlf ('\n' :: text) = '\r' :: '\n' :: withCrlf text := rfl

theorem withCrlf_cons {c : Char} (h : c ≠ '\n') (text : List Char) :
    withCrlf (c :: text) = c :: withCrlf text := by
  unfold withCrlf
  rw [List.flatMap_cons, if_neg h]
  rfl

theorem withCrlf_ne_newline (text later : List Char) : withCrlf text ≠ '\n' :: later := by
  cases text with
  | nil => exact (List.cons_ne_nil _ _).symm
  | cons c text =>
    by_cases hc : c = '\n'
    · rw [hc, withCrlf_newline]
      exact fun h => absurd (List.cons.inj h).1 (by decide)
    · rw [withCrlf_cons hc]
      exact fun h => hc (List.cons.inj h).1

theorem padded_intoFirst {paddeds lines : List (List Char)}
    (h : List.Forall₂ Padded paddeds lines) (c : Char) :
    List.Forall₂ Padded (intoFirst c paddeds) (intoFirst c lines) := by
  cases h with
  | nil => exact .cons (Padded.refl _) .nil
  | cons hp later => exact .cons (hp.cons c) later

/-- **Another way to end lines** gives the same lines, padded: where there is a `\r` before a `\n`,
the line gets it. -/
theorem lines_withCrlf (text : List Char) :
    List.Forall₂ Padded (lines (withCrlf text)) (lines text) := by
  have hblank : Padded ['\r'] [] := ⟨['\r'], rfl, List.all_eq_true.1 (by decide)⟩
  have hcons {c : Char} {rest : List Char} (hn : c ≠ '\n')
      (hr : ∀ later, c = '\r' → rest ≠ '\n' :: later)
      (ih : List.Forall₂ Padded (lines (withCrlf rest)) (lines rest)) :
      List.Forall₂ Padded (lines (withCrlf (c :: rest))) (lines (c :: rest)) := by
    rw [withCrlf_cons hn, lines_cons hn fun later _ => withCrlf_ne_newline rest later,
      lines_cons hn hr]
    exact padded_intoFirst ih c
  induction text using lines.induct with
  | case1 => exact .nil
  | case2 rest ih => exact .cons (Padded.refl []) ih
  | case3 rest ih =>
    have hlines : lines (withCrlf ('\r' :: '\n' :: rest)) = ['\r'] :: lines (withCrlf rest) := rfl
    rw [hlines]
    exact .cons hblank ih
  | case4 c rest hn hr _ ih => exact hcons hn hr ih
  | case5 c rest hn hr _ _ _ ih => exact hcons hn hr ih

/-- **Neither line ends nor blanks at the ends of lines matter.** A source with every `\n` written as
`\r\n` has the same description and the same segments, whatever ends its lines had before; and
lines with any blanks behind each of them have the same segments. -/
theorem read_line_ends :
    (∀ text headerLines, Example.read (withCrlf text) headerLines =
      Example.read text headerLines) ∧
    ∀ linesAndBlanks : List (List Char × List Char),
      (∀ p ∈ linesAndBlanks, ∀ c ∈ p.2, isBlank c = true) →
      segments (linesAndBlanks.map fun p => p.1 ++ p.2) = segments (linesAndBlanks.map Prod.fst) := by
  constructor
  · intro text headerLines
    have hlines := lines_withCrlf text
    have hbody : segments ((lines (withCrlf text)).drop headerLines) =
        segments ((lines text).drop headerLines) :=
      segmentsFrom_padded (List.forall₂_drop headerLines hlines) {}
    refine congrArg₂ Example.mk ?_ hbody
    split
    · exact firstDocumentation_padded (List.forall₂_drop headerLines hlines)
    · exact firstDocumentation_padded (List.forall₂_take headerLines hlines)
  · intro linesAndBlanks h
    refine segmentsFrom_padded ?_ {}
    rw [List.forall₂_map_left_iff, List.forall₂_map_right_iff, List.forall₂_same]
    exact fun p hp => ⟨p.2, rfl, h p hp⟩

/-- Bare markers, mixed line ends and a `\r` within a line; wide blanks behind lines. -/
theorem read_line_ends_mixed :
    Example.read (withCrlf "//\n#a\r\nb\rc\r\r\n\r\nd".toList) 1 =
        Example.read "//\n#a\r\nb\rc\r\r\n\r\nd".toList 1 ∧
      segments [['/', '/', '\u3000'], ['x', '\u2028', '\t'], ['\u00a0']] =
        segments [['/', '/'], ['x'], []] := by
  have hblank : ∀ p ∈ [("//".toList, ['\u3000']), (['x'], ['\u2028', '\t']), ([], ['\u00a0'])],
      p.2.all isBlank = true := by decide
  exact ⟨read_line_ends.1 _ 1,
    read_line_ends.2 _ fun p hp => List.all_eq_true.1 (hblank p hp)⟩

end LiterateSite.Source
