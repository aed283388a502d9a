import LiterateSite.Proofs.Source.Blocks
import LiterateSite.Proofs.Source.Endings

/-!
# Segments as a normal form

Segments can be written as a source again, from which the same segments are read.

* `CodeLine`, `Segment.Normal`: what the lines of a segment are like.
* `normal_segmentsFrom`: **every segment that is read is normal**, by induction on the lines.
* `printed`: a source for segments, with a block of lines for each of them.
* `Segment.Normal.ofBlock_block`: the block of a normal segment says what the segment does.
* `read_printed`: **the segments of a source are read again from what is printed for them.**
-/

namespace LiterateSite.Source

open Text

/-- The lines of the code. -/
def Segment.splitCode (s : Segment) : List (List Char) :=
  if s.code = [] then [] else s.code.splitOn '\n'

/-- The lines of a segment: its documentation behind a marker if there is any, and its code. -/
def Segment.block (s : Segment) : List (List Char) :=
  (if s.documentation = [] then [] else ["// ".toList ++ s.documentation]) ++ s.splitCode

/-- A source for the segments: the lines of each and an empty line, with a line end each. -/
def printed (segments : List Segment) : List Char :=
  (segments.flatMap fun s => s.block ++ [[]]).flatMap fun line => line ++ ['\n']

/-- A line as it stands in the code of a segment. -/
structure CodeLine (line : List Char) : Prop where
  oneLine : '\n' ∉ line
  not_blank : isBlankText line = false
  trimmed : trimEnd line = line
  kind : classify line = .code

/-- The documentation is a single line without blanks and slashes at its ends, and the code consists
of code lines without blanks at their ends. -/
structure Segment.Normal (s : Segment) : Prop where
  oneLine : '\n' ∉ s.documentation
  first : ∀ c ∈ s.documentation.head?, isSurround c = false
  last : ∀ c ∈ s.documentation.getLast?, isSurround c = false
  code : ∀ line ∈ s.splitCode, CodeLine line

variable {current s : Segment} {line : List Char} {segs : List Segment}

/-! ## Segments that are read -/

theorem not_mem_trimEnd {c : Char} (h : c ∉ line) : c ∉ trimEnd line := by
  obtain ⟨pad, hline, -⟩ := padded_trimEnd line
  rw [hline, List.mem_append, not_or] at h
  exact h.1

/-- **A code line without the blanks at its end** is still a code line. -/
theorem codeLine_trimEnd (hn : '\n' ∉ line) (h : classify line = .code) :
    CodeLine (trimEnd line) where
  oneLine := not_mem_trimEnd hn
  not_blank := by
    refine not_blank_of_code ?_
    rw [← classify_padded (padded_trimEnd line), h]
  trimmed := (trimEnd_padded (padded_trimEnd line)).symm
  kind := by rw [← classify_padded (padded_trimEnd line), h]

theorem splitCode_addCode (hn : '\n' ∉ line) (h : classify line = .code) (current : Segment) :
    (current.addCode line).splitCode = current.splitCode ++ [trimEnd line] := by
  have hone : (trimEnd line).splitOn '\n' = [trimEnd line] :=
    List.splitOn_eq_singleton (not_mem_trimEnd hn)
  unfold Segment.splitCode
  rw [if_neg (addCode_ne_nil h current)]
  unfold Segment.addCode
  by_cases hc : current.code = []
  · simp only [hc, List.isEmpty_nil, if_true, List.nil_append]
    exact hone
  · simp only [hc, List.isEmpty_iff, if_false]
    rw [List.splitOn_append_cons_self, hone]

/-- A documentation line leaves a normal segment. -/
theorem Segment.Normal.document (h : current.Normal) (hn : '\n' ∉ line)
    (hd : classify line = .documentation) : (current.document line).Normal := by
  obtain ⟨blanks, marker, rest, hm⟩ := classify_eq_documentation_iff.1 hd
  have htext : Trimmed isSurround rest (stripDocumentation line) :=
    trimBoth_eq_iff.1 hm.stripDocumentation_eq.symm
  refine ⟨fun hmem => hn ?_, htext.first, htext.last, h.code⟩
  obtain ⟨front, back, hrest, -⟩ := htext.between
  rw [hm.parts, hrest]
  exact List.mem_append_right _ (List.mem_append_left _ (List.mem_append_right _ hmem))

/-- A code line leaves a normal segment. -/
theorem Segment.Normal.addCode (h : current.Normal) (hn : '\n' ∉ line)
    (hc : classify line = .code) : (current.addCode line).Normal := by
  refine ⟨h.oneLine, h.first, h.last, fun row hrow => ?_⟩
  rw [splitCode_addCode hn hc] at hrow
  rcases List.mem_append.1 hrow with hrow | hrow
  · exact h.code row hrow
  · rw [List.mem_singleton.1 hrow]
    exact codeLine_trimEnd hn hc

theorem normal_empty : Segment.Normal {} :=
  ⟨List.not_mem_nil, fun c hc => absurd hc (Option.not_mem_none c),
    fun c hc => absurd hc (Option.not_mem_none c), fun _ hrow => absurd hrow List.not_mem_nil⟩

/-- **Every segment that is read is normal.** -/
theorem normal_segmentsFrom {lines : List (List Char)} (hn : ∀ line ∈ lines, '\n' ∉ line)
    (h : current.Normal) : ∀ s ∈ segmentsFrom current lines, s.Normal := by
  -- on the lines, for every normal segment that may be in progress when they begin
  induction lines generalizing current with
  | nil =>
    intro s hs
    unfold segmentsFrom at hs
    split at hs
    · exact absurd hs List.not_mem_nil
    · exact List.mem_singleton.1 hs ▸ h
  | cons line rest ih =>
    have hline : '\n' ∉ line := hn line List.mem_cons_self
    have hrest : ∀ line ∈ rest, '\n' ∉ line := fun l hl => hn l (List.mem_cons_of_mem _ hl)
    cases hk : classify line with
    | blank =>
      rw [segmentsFrom_blank hk, List.forall_mem_cons]
      exact ⟨h, ih hrest normal_empty⟩
    | documentation =>
      rw [segmentsFrom_documentation hk]
      exact ih hrest (h.document hline hk)
    | code =>
      rw [segmentsFrom_code hk]
      exact ih hrest (h.addCode hline hk)

/-! ## The block of a normal segment -/

/-- The documentation line that is printed. -/
theorem Segment.Normal.marked (h : s.Normal) :
    classify ("// ".toList ++ s.documentation) = .documentation ∧
      stripDocumentation ("// ".toList ++ s.documentation) = s.documentation := by
  have hblank : ∀ c ∈ ([] : List Char), isBlank c = true := fun _ hc => absurd hc List.not_mem_nil
  have hmarker : ['/', '/'] ∈ markers := by decide
  exact documentation_of_space hblank hmarker h.first h.last

theorem joinLines_splitCode (s : Segment) : joinLines s.splitCode = s.code := by
  unfold Segment.splitCode
  split
  · rename_i hc
    exact hc.symm
  · exact List.intercalate_splitOn '\n'

theorem Segment.Normal.block_code (h : s.Normal) :
    s.block.filter (fun line => classify line = .code) = s.splitCode := by
  have hcode : s.splitCode.filter (fun line => classify line = .code) = s.splitCode :=
    List.filter_eq_self.2 fun line hl => decide_eq_true (h.code line hl).kind
  unfold Segment.block
  rw [List.filter_append, hcode]
  by_cases hd : s.documentation = []
  · rw [if_pos hd]
    rfl
  · rw [if_neg hd, List.filter_cons_of_neg (by simp only [h.marked.1]; decide)]
    rfl

theorem Segment.Normal.block_documentation (h : s.Normal) :
    s.block.filter (fun line => classify line = .documentation) =
      if s.documentation = [] then [] else ["// ".toList ++ s.documentation] := by
  have hcode : s.splitCode.filter (fun line => classify line = .documentation) = [] :=
    List.filter_eq_nil_iff.2 fun line hl => by simp only [(h.code line hl).kind]; decide
  unfold Segment.block
  rw [List.filter_append, hcode, List.append_nil]
  by_cases hd : s.documentation = []
  · rw [if_pos hd]
    rfl
  · rw [if_neg hd]
    exact List.filter_cons_of_pos (decide_eq_true h.marked.1)

/-- **The block of a normal segment** says what the segment does. -/
theorem Segment.Normal.ofBlock_block (h : s.Normal) : Segment.ofBlock s.block = s := by
  have htrim : s.splitCode.map trimEnd = s.splitCode :=
    (List.map_congr_left fun line hl => (h.code line hl).trimmed).trans (List.map_id _)
  have hdoc : ((s.block.filter fun line => classify line = .documentation).getLast?.map
      stripDocumentation).getD [] = s.documentation := by
    rw [h.block_documentation]
    by_cases hd : s.documentation = []
    · rw [if_pos hd, hd]
      rfl
    · rw [if_neg hd]
      exact h.marked.2
  unfold Segment.ofBlock
  rw [hdoc, h.block_code, htrim, joinLines_splitCode]

/-- What is printed of a normal segment are lines, none of which is blank. -/
theorem Segment.Normal.line_of_block (h : s.Normal) :
    ∀ line ∈ s.block, '\n' ∉ line ∧ line.getLast? ≠ some '\r' ∧ classify line ≠ .blank := by
  have hreturn : isBlank '\r' = true := by decide
  intro line hl
  rcases List.mem_append.1 hl with hl | hl
  · split at hl
    · exact absurd hl List.not_mem_nil
    · rename_i hd
      rw [List.mem_singleton.1 hl]
      refine ⟨?_, fun hlast => ?_, by rw [h.marked.1]; decide⟩
      · rw [List.mem_append, not_or]
        exact ⟨by decide, h.oneLine⟩
      · rw [List.getLast?_append_of_ne_nil _ hd] at hlast
        have hsurround := h.last _ hlast
        unfold isSurround at hsurround
        rw [hreturn, Bool.or_true] at hsurround
        cases hsurround
  · have hcode := h.code line hl
    refine ⟨hcode.oneLine, fun hlast => ?_, by rw [hcode.kind]; decide⟩
    obtain ⟨-, -, -, hend⟩ := dropEndWhile_eq_iff.1 hcode.trimmed
    rw [hend _ hlast] at hreturn
    cases hreturn

/-! ## Reading what is printed -/

/-- The lines of what is printed. -/
theorem lines_printed (h : ∀ s ∈ segs, s.Normal) :
    lines (printed segs) = segs.flatMap fun s => s.block ++ [[]] := by
  have hline : ∀ line ∈ segs.flatMap fun s => s.block ++ [[]],
      '\n' ∉ line ∧ line.getLast? ≠ some '\r' := by
    intro line hl
    obtain ⟨s, hs, hl⟩ := List.mem_flatMap.1 hl
    rcases List.mem_append.1 hl with hl | hl
    · obtain ⟨hn, hr, -⟩ := (h s hs).line_of_block line hl
      exact ⟨hn, hr⟩
    · rw [List.mem_singleton.1 hl]
      exact ⟨List.not_mem_nil, (Option.some_ne_none _).symm⟩
  exact lines_ended (fun line hl => (hline line hl).1) fun line hl => (hline line hl).2

/-- Each segment is printed as a block; the one behind the last empty line is empty. -/
theorem blocks_printed (h : ∀ s ∈ segs, s.Normal) :
    blocks (segs.flatMap fun s => s.block ++ [[]]) = segs.map Segment.block ++ [[]] := by
  induction segs with
  | nil => rfl
  | cons s later ih =>
    rw [List.forall_mem_cons] at h
    have hblock : ∀ line ∈ s.block, classify line ≠ .blank :=
      fun line hl => (h.1.line_of_block line hl).2.2
    rw [List.flatMap_cons, List.append_assoc, List.singleton_append,
      blocks_append_blank hblock (by decide), ih h.2]
    rfl

/-- **Normal segments are read again** from what is printed for them. -/
theorem segments_printed (h : ∀ s ∈ segs, s.Normal) :
    segments (lines (printed segs)) = segs := by
  have hsaid : (segs.map Segment.block).map Segment.ofBlock = segs := by
    rw [List.map_map]
    exact (List.map_congr_left fun s hs => (h s hs).ofBlock_block).trans (List.map_id _)
  have hread : segments (lines (printed segs)) =
      withoutEmptyEnd ((blocks (lines (printed segs))).map Segment.ofBlock) :=
    segmentsFrom_ofBlock _ [] fun _ hx => absurd hx List.not_mem_nil
  -- what the empty block behind the last segment says is no segment
  rw [hread, lines_printed h, blocks_printed h, List.map_append, hsaid]
  unfold withoutEmptyEnd
  rw [List.map_singleton, List.dropLast_concat, List.getLast?_concat]
  exact List.append_nil segs

/-- **The segments of a source are a normal form.** What is printed for the segments of any source
is read as the same segments. The documentation of each is a single line without blanks and slashes
at its ends, and the lines of its code are not blank, have no blanks at their ends and are code. -/
theorem read_printed (text : List Char) (headerLines : Nat) :
    let segs := (Example.read text headerLines).segments
    (Example.read (printed segs) 0).segments = segs ∧ ∀ s ∈ segs, s.Normal := by
  intro segs
  have hn : ∀ line ∈ (lines text).drop headerLines, '\n' ∉ line :=
    fun line hl => not_mem_of_mem_lines (List.mem_of_mem_drop hl)
  have hnormal : ∀ s ∈ segs, s.Normal := normal_segmentsFrom hn normal_empty
  exact ⟨segments_printed hnormal, hnormal⟩

example : let segs := (Example.read "#! env\n x \n# /a/b/\n\n \n#c".toList 0).segments
    printed segs = "// a/b\n#! env\n x\n\n\n#c\n\n".toList ∧
      (Example.read (printed segs) 0).segments = segs := by decide

end LiterateSite.Source
