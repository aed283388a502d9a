import LiterateSite.Proofs.Source.Code

/-!
# The blocks of a source

What the segments of a list of lines are, told without reading the lines one after the other.

* `blocks`: the lines between blank lines; there is one block more than there are blank lines.
* `Segment.ofBlock`: what a block says.
* `segmentsFrom_ofBlock`: **the segment in progress is what its block says so far.**
* `segments_eq_blocks`: **segments are what the blocks say**, the last one if it says anything.
-/

namespace LiterateSite.Source

open Text

/-- The blocks of lines between blank lines. -/
def blocks (lines : List (List Char)) : List (List (List Char)) :=
  lines.splitOnP fun line => classify line = .blank

/-- The documentation of a block is that of its last documentation line, its code that of all of
its code lines. -/
def Segment.ofBlock (block : List (List Char)) : Segment :=
  { documentation :=
      ((block.filter fun line => classify line = .documentation).getLast?.map
        stripDocumentation).getD []
    code := joinLines ((block.filter fun line => classify line = .code).map trimEnd) }

/-- The segments in front of the last one, and the last one if it says anything. -/
def withoutEmptyEnd (segments : List Segment) : List Segment :=
  segments.dropLast ++ segments.getLast?.toList.filter fun s => !s.isEmpty

variable {block rest : List (List Char)} {line : List Char}

/-! ## Blocks -/

theorem blocks_ne_nil (lines : List (List Char)) : blocks lines ≠ [] := List.splitOnP_ne_nil _ _

theorem blocks_of_no_blank (h : ∀ line ∈ block, classify line ≠ .blank) :
    blocks block = [block] :=
  List.splitOnP_eq_singleton fun line hl => decide_eq_false (h line hl)

theorem blocks_append_blank (h : ∀ line ∈ block, classify line ≠ .blank)
    (hb : classify line = .blank) (rest : List (List Char)) :
    blocks (block ++ line :: rest) = block :: blocks rest :=
  List.splitOnP_append_cons_of_forall_mem (fun line hl => decide_eq_false (h line hl)) line
    (decide_eq_true hb) rest

/-- **There is one block more than there are blank lines.** -/
theorem length_blocks (lines : List (List Char)) :
    (blocks lines).length = lines.countP (fun line => classify line = .blank) + 1 := by
  induction lines with
  | nil => rfl
  | cons line rest ih =>
    unfold blocks at ih ⊢
    rw [List.splitOnP_cons_eq_if_modifyHead, List.countP_cons]
    by_cases hb : classify line = .blank
    · rw [if_pos (decide_eq_true hb), if_pos (decide_eq_true hb), List.length_cons, ih]
    · rw [if_neg (by simpa using hb), if_neg (by simpa using hb), List.length_modifyHead, ih]

/-! ## What a block says -/

/-- Another documentation line takes the place of the one before. -/
theorem ofBlock_documentation (h : classify line = .documentation) (block : List (List Char)) :
    Segment.ofBlock (block ++ [line]) = (Segment.ofBlock block).document line := by
  have hcode : [line].filter (fun line => classify line = .code) = [] :=
    List.filter_cons_of_neg (by simp [h])
  have hdoc : [line].filter (fun line => classify line = .documentation) = [line] :=
    List.filter_cons_of_pos (by simp [h])
  unfold Segment.ofBlock Segment.document
  rw [List.filter_append, List.filter_append, hcode, hdoc, List.append_nil, List.getLast?_concat]
  rfl

/-- Another code line follows the others. -/
theorem ofBlock_code (h : classify line = .code) (block : List (List Char)) :
    Segment.ofBlock (block ++ [line]) = (Segment.ofBlock block).addCode line := by
  have hcode : [line].filter (fun line => classify line = .code) = [line] :=
    List.filter_cons_of_pos (by simp [h])
  have hdoc : [line].filter (fun line => classify line = .documentation) = [] :=
    List.filter_cons_of_neg (by simp [h])
  have hlines : codeLines (block ++ [line]) = codeLines block ++ [trimEnd line] := by
    unfold codeLines
    rw [List.filter_append, hcode, List.map_append]
    rfl
  -- a code line is not empty, so there is code exactly if there has been a code line
  have hjoin : joinLines (codeLines (block ++ [line])) =
      if (joinLines (codeLines block)).isEmpty then trimEnd line
      else joinLines (codeLines block) ++ '\n' :: trimEnd line := by
    rw [hlines]
    by_cases hn : codeLines block = []
    · rw [hn, List.nil_append, joinLines_singleton, joinLines_nil, if_pos List.isEmpty_nil]
    · have hne : joinLines (codeLines block) ≠ [] :=
        fun he => hn (joinLines_eq_nil (codeLines_ne_nil block) he)
      rw [joinLines_concat hn, if_neg (by rwa [List.isEmpty_iff])]
  unfold Segment.ofBlock Segment.addCode
  rw [List.filter_append (p := fun line => decide (classify line = .documentation)), hdoc,
    List.append_nil]
  exact congrArg _ hjoin

/-! ## Reading lines -/

theorem withoutEmptyEnd_cons (s : Segment) {segments : List Segment} (h : segments ≠ []) :
    withoutEmptyEnd (s :: segments) = s :: withoutEmptyEnd segments := by
  unfold withoutEmptyEnd
  rw [List.dropLast_cons_of_ne_nil h, List.getLast?_cons_of_ne_nil h, List.cons_append]

/-- **The segment in progress is what its block says so far.** -/
theorem segmentsFrom_ofBlock (lines : List (List Char)) : ∀ block : List (List Char),
    (∀ line ∈ block, classify line ≠ .blank) →
      segmentsFrom (Segment.ofBlock block) lines =
        withoutEmptyEnd ((blocks (block ++ lines)).map Segment.ofBlock) := by
  -- on the lines that are left, for every block that may be in progress
  induction lines with
  | nil =>
    intro block h
    rw [List.append_nil, blocks_of_no_blank h]
    unfold segmentsFrom withoutEmptyEnd
    cases he : (Segment.ofBlock block).isEmpty <;> simp [he]
  | cons line rest ih =>
    intro block h
    -- a line that is not blank goes to the block in progress
    have hmore : classify line ≠ .blank → ∀ x ∈ block ++ [line], classify x ≠ .blank := by
      intro hl x hx
      rcases List.mem_append.1 hx with hx | hx
      · exact h x hx
      · rwa [List.mem_singleton.1 hx]
    have hassoc : block ++ line :: rest = block ++ [line] ++ rest := by
      rw [List.append_assoc, List.singleton_append]
    cases hk : classify line with
    | blank =>
      have hstart := ih [] fun _ hx => absurd hx List.not_mem_nil
      rw [segmentsFrom_blank hk, blocks_append_blank h hk, List.map_cons,
        withoutEmptyEnd_cons _ (by simpa using blocks_ne_nil rest)]
      exact congrArg _ hstart
    | documentation =>
      rw [segmentsFrom_documentation hk, ← ofBlock_documentation hk, hassoc]
      exact ih _ (hmore (by rw [hk]; decide))
    | code =>
      rw [segmentsFrom_code hk, ← ofBlock_code hk, hassoc]
      exact ih _ (hmore (by rw [hk]; decide))

/-- **Segments are what the blocks say.** With `k` blank lines there are `k + 1` blocks. The first
`k` of them are segments, even if they say nothing; the last one is, if it has documentation or
code. -/
theorem segments_eq_blocks (lines : List (List Char)) :
    let k := lines.countP fun line => classify line = .blank
    let said := (blocks lines).map Segment.ofBlock
    (blocks lines).length = k + 1 ∧
      segments lines = said.take k ++
        (said.drop k).filter fun s => s.documentation ≠ [] ∨ s.code ≠ [] := by
  intro k said
  have hlen : said.length = k + 1 := by rw [List.length_map, length_blocks]
  have hread : segments lines = withoutEmptyEnd said :=
    segmentsFrom_ofBlock lines [] fun _ hx => absurd hx List.not_mem_nil
  refine ⟨length_blocks lines, hread.trans ?_⟩
  -- the blocks in front of the last one are the first `k`
  obtain ⟨front, last, hsaid⟩ :=
    (List.eq_nil_or_concat said).resolve_left (List.ne_nil_of_length_eq_add_one hlen)
  rw [List.concat_eq_append] at hsaid
  have hk : front.length = k := by
    rw [hsaid, List.length_append, List.length_singleton] at hlen
    omega
  unfold withoutEmptyEnd
  rw [hsaid, ← hk, List.dropLast_concat, List.getLast?_concat, List.take_left, List.drop_left]
  congr 1
  refine List.filter_congr fun s _ => ?_
  obtain ⟨documentation, code⟩ := s
  cases documentation <;> cases code <;> simp [Segment.isEmpty]

end LiterateSite.Source
