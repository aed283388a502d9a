import LiterateSite.Pattern.Reader
import LiterateSite.Proofs.Pattern.Repeat
import LiterateSite.Proofs.Source.Marks

/-!
# The kinds of lines

A documentation line is recognised by its form, and by a pattern just as well.

* `documentationPattern`, `read?_documentationPattern`: the pattern, and how it is written.
* `blanks_of_leads`, `marker_of_leads`, `detached_of_leads`: where its parts lead past.
* `find?_documentationPattern`: **it has a match in documentation lines only**, and in all of them.
* `line_kinds`: **the form of a line decides its kind and its text.**
-/

namespace LiterateSite.Source

open Text
open CharSet (single)
open Pattern

variable {cur next : Cursor} {line blanks marker rest : List Char}

/-! ## The pattern of a documentation line -/

/-- Blanks, a marker, and a blank or the end of the line behind it. -/
def markPattern : Pattern :=
  seqAll [star true (one .blank), alt (literal "//") (literal "#"), alt (one .blank) (look .textEnd)]

/-- The pattern of a documentation line. -/
def documentationPattern : Pattern := seq (look .textStart) markPattern

/-- The pattern as it is written. -/
theorem read?_documentationPattern :
    Pattern.read? "^\\s*(?://|#)(?:\\s|$)".toList = some documentationPattern := by
  decide +kernel

/-! ## Matches are documentation lines -/

/-- Blanks, any number of them, lead past blanks. -/
theorem blanks_of_leads (h : (star true (one .blank)).Leads cur next) :
    ∃ blanks, cur.rest = blanks ++ next.rest ∧ ∀ c ∈ blanks, isBlank c = true := by
  obtain ⟨word, hw⟩ := h.spells
  obtain ⟨rest, hr⟩ := hw.follows
  refine ⟨word, by rw [hw.stop, Cursor.past_rest hr, hr], fun c hc => ?_⟩
  have hadmits : (isBlank c || false) = true := hw.letters c hc
  rwa [Bool.or_false] at hadmits

theorem marker_of_leads (h : (alt (literal "//") (literal "#")).Leads cur next) :
    ∃ marker ∈ markers, cur.rest = marker ++ next.rest := by
  cases h with
  | left h =>
    have h : (seq (one (single '/')) (one (single '/'))).Leads cur next := h
    cases h with
    | seq first second =>
      exact ⟨['/', '/'], by decide, by rw [first.of_single, second.of_single]; rfl⟩
  | right h =>
    have h : (one (single '#')).Leads cur next := h
    exact ⟨['#'], by decide, h.of_single⟩

theorem detached_of_leads (h : (alt (one .blank) (look .textEnd)).Leads cur next) :
    ∀ c ∈ cur.rest.head?, isBlank c = true := by
  intro c hc
  cases h with
  | left h =>
    cases h with
    | one hr hs =>
      rw [hr] at hc
      rw [← Option.some.inj hc]
      exact hs
  | right h =>
    cases h with
    | look he =>
      have hn : cur.rest = [] := List.isEmpty_iff.1 he
      rw [hn] at hc
      exact absurd hc (Option.not_mem_none c)

/-- **Where the pattern leads**, there is a documentation line. -/
theorem marked_of_leads (h : markPattern.Leads (.start line) next) :
    ∃ blanks marker rest, Marked line blanks marker rest := by
  cases h with
  | seq first later =>
    cases later with
    | seq second third =>
      obtain ⟨blanks, hline, hblank⟩ := blanks_of_leads first
      obtain ⟨marker, hm, hrest⟩ := marker_of_leads second
      refine ⟨blanks, marker, _, ?_, hblank, hm, detached_of_leads third⟩
      rw [List.append_assoc, ← hrest]
      exact hline

/-! ## Documentation lines are matches -/

theorem matchAt?_marker (hm : marker ∈ markers) (hr : cur.rest = marker ++ rest) :
    (alt (literal "//") (literal "#")).matchAt? cur = some (cur.past marker) := by
  have hliteral (s : String) : (literal s).matchAt? cur =
      if s.toList <+: cur.rest then some (cur.past s.toList) else none := by
    unfold matchAt?
    rw [ends_literal]
    split <;> rfl
  rw [matchAt?_alt, hliteral, hliteral, hr]
  unfold markers at hm
  simp only [List.mem_cons, List.not_mem_nil, or_false] at hm
  rcases hm with rfl | rfl
  · have hslashes : "//".toList <+: ['/', '/'] ++ rest := List.prefix_append _ _
    rw [if_pos hslashes]
    rfl
  · have hslashes : ¬"//".toList <+: ['#'] ++ rest := by simp
    have hhash : "#".toList <+: ['#'] ++ rest := List.prefix_append _ _
    rw [if_neg hslashes, if_pos hhash]
    rfl

theorem exists_matchAt?_detached (h : ∀ c ∈ cur.rest.head?, isBlank c = true) :
    ∃ stop, (alt (one .blank) (look .textEnd)).matchAt? cur = some stop := by
  rw [matchAt?_alt]
  cases hr : cur.rest with
  | nil =>
    have hnone : (one .blank).matchAt? cur = none := by
      unfold matchAt?
      rw [ends_one_eq_nil (by rw [hr]; exact fun c hc => absurd hc (Option.not_mem_none c))]
      rfl
    have hend : (look .textEnd).matchAt? cur = some cur := by
      unfold matchAt?
      rw [show (look .textEnd).ends cur = [cur] from if_pos (List.isEmpty_iff.2 hr)]
      rfl
    exact ⟨cur, by rw [hnone, hend]; rfl⟩
  | cons c rest =>
    have hc : CharSet.blank.contains c = true := h c (by rw [hr]; rfl)
    have hone : (one .blank).matchAt? cur = some (cur.advance c rest) := by
      unfold matchAt?
      rw [ends_one_cons hr, if_pos hc]
      rfl
    exact ⟨_, by rw [hone]; rfl⟩

/-- **In a documentation line** the pattern has a match. -/
theorem Marked.exists_matchAt? (h : Marked line blanks marker rest) :
    ∃ stop, markPattern.matchAt? (.start line) = some stop := by
  have hline : (Cursor.start line).rest = blanks ++ (marker ++ rest) := by
    rw [← List.append_assoc]
    exact h.parts
  have hnext : ∀ c ∈ (marker ++ rest).head?, CharSet.blank.contains c = false := by
    intro c hc
    obtain ⟨d, tail, rfl⟩ := List.exists_cons_of_ne_nil (marker_ne_nil h.marker_mem)
    exact not_blank_of_marker h.marker_mem c (List.mem_of_mem_head? hc)
  have hafter : ((Cursor.start line).past blanks).rest = marker ++ rest := Cursor.past_rest hline
  have hlast : (((Cursor.start line).past blanks).past marker).rest = rest :=
    Cursor.past_rest hafter
  obtain ⟨stop, hstop⟩ := exists_matchAt?_detached (hlast.symm ▸ h.detached)
  exact ⟨stop, matchAt?_seq (matchAt?_star_one h.blank hnext hline)
    (matchAt?_seq (matchAt?_marker h.marker_mem hafter) hstop)⟩

/-- **The lines in which the pattern has a match** are the documentation lines. -/
theorem find?_documentationPattern (line : List Char) :
    (documentationPattern.find? line).isSome = true ↔ classify line = .documentation := by
  unfold documentationPattern
  rw [find?_anchored, Option.isSome_map, classify_eq_documentation_iff]
  constructor
  · intro h
    obtain ⟨stop, hstop⟩ := Option.isSome_iff_exists.1 h
    exact marked_of_leads (leads_of_mem_ends _ _ stop (List.mem_of_mem_head? hstop))
  · rintro ⟨blanks, marker, rest, h⟩
    obtain ⟨stop, hstop⟩ := h.exists_matchAt?
    rw [hstop]
    rfl

/-! ## Lines by their form -/

theorem classify_eq_code_iff : classify line = .code ↔
    classify line ≠ .blank ∧ classify line ≠ .documentation := by
  cases classify line <;> decide

/-- **The form of a line decides its kind and its text.** A line is blank if all of its characters
are, documentation if it has the form of a documentation line, and code in all other cases. The text
of a documentation line is the rest behind the marker without the blanks and slashes at its ends, so
that a text that has none there is found again behind any blanks, any marker and a space. The
pattern that is written as below has a match in the documentation lines and in no other line. -/
theorem line_kinds (line : List Char) :
    (classify line = .blank ↔ ∀ c ∈ line, isBlank c = true) ∧
      (classify line = .documentation ↔ ∃ blanks marker rest, Marked line blanks marker rest) ∧
      (classify line = .code ↔ ¬(∀ c ∈ line, isBlank c = true) ∧
        ¬∃ blanks marker rest, Marked line blanks marker rest) ∧
      (∀ blanks marker rest, Marked line blanks marker rest →
        Trimmed isSurround rest (stripDocumentation line)) ∧
      (∀ blanks marker text, (∀ c ∈ blanks, isBlank c = true) → marker ∈ markers →
        (∀ c ∈ text.head?, isSurround c = false) → (∀ c ∈ text.getLast?, isSurround c = false) →
        line = blanks ++ marker ++ ' ' :: text →
        classify line = .documentation ∧ stripDocumentation line = text) ∧
      ∃ p, Pattern.read? "^\\s*(?://|#)(?:\\s|$)".toList = some p ∧
        ((p.find? line).isSome = true ↔ classify line = .documentation) := by
  refine ⟨classify_eq_blank_iff, classify_eq_documentation_iff, ?_, ?_, ?_,
    documentationPattern, read?_documentationPattern, find?_documentationPattern line⟩
  · rw [classify_eq_code_iff, Ne, classify_eq_blank_iff, Ne, classify_eq_documentation_iff]
  · intro blanks marker rest h
    exact trimBoth_eq_iff.1 h.stripDocumentation_eq.symm
  · rintro blanks marker text hblank hm hfirst hlast rfl
    exact documentation_of_space hblank hm hfirst hlast

/-- Wide blanks around a marker, and more marks around the text. -/
theorem line_kinds_wide_blanks :
    let line := "\u3000#\u2003// a/b # /".toList
    Marked line ['\u3000'] ['#'] "\u2003// a/b # /".toList ∧ classify line = .documentation ∧
      Trimmed isSurround "\u2003// a/b # /".toList (stripDocumentation line) ∧
      stripDocumentation line = "a/b #".toList := by
  intro line
  have hmarked : Marked line ['\u3000'] ['#'] "\u2003// a/b # /".toList :=
    ⟨rfl, List.all_eq_true.1 (by decide), by decide, isDetached_iff.1 (by decide)⟩
  obtain ⟨-, hdoc, -, htext, -⟩ := line_kinds line
  have htrimmed := htext _ _ _ hmarked
  refine ⟨hmarked, hdoc.2 ⟨_, _, _, hmarked⟩, htrimmed, ?_⟩
  decide

end LiterateSite.Source
