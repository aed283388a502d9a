import LiterateSite.Proofs.Highlight.Rules
import LiterateSite.Site.Naming
import LiterateSite.Text.Line

/-!
# The tokens of a transcript

The grammar of transcripts told by lines, for every text.

* `run_line`, `run_last`, `run_prompt`, `run_promptEnd`, `run_output`: one step of each state.
* `run_of_prompt`, `run_of_no_prompt`: a whole run, by induction on the lines.
* `tokenize_transcript`: **the first line that begins with `$` is the prompt, and all else but its
  line end is output.**
-/

namespace LiterateSite.Highlight

open CharSet Pattern
open Grammar (rootState)

variable {text word rest line prompt output : List Char} {before after : List (List Char)}
variable {steps tokens : List Token} {p : Pattern}

/-! ## One step of each state -/

/-- The text that follows a line begins with its end. -/
theorem inLine_of_head? (h : ∀ c ∈ rest.head?, c = '\n') :
    ∀ c ∈ rest.head?, inLine.contains c = false := by
  intro c hc
  rw [contains_inLine, h c hc]
  rfl

theorem inLine_of_not_mem (h : '\n' ∉ line) : ∀ c ∈ line, inLine.contains c = true := by
  intro c hc
  rw [contains_inLine]
  exact decide_eq_true fun he => h (he ▸ hc)

/-- A line that begins with `$` is taken by the first rule. -/
theorem matchAt?_prompt (hp : prompt.head? = some '$') (hn : '\n' ∉ prompt)
    (hr : ∀ c ∈ rest.head?, c = '\n') :
    (seq (one (single '$')) (star true (one inLine))).matchAt? (.start (prompt ++ rest)) =
      some ((Cursor.start (prompt ++ rest)).past prompt) := by
  obtain ⟨more, rfl⟩ := List.head?_eq_some_iff.1 hp
  have hfirst : (one (single '$')).matchAt? (.start ('$' :: (more ++ rest))) =
      some ((Cursor.start ('$' :: (more ++ rest))).advance '$' (more ++ rest)) := by
    unfold matchAt?
    rw [ends_one_cons rfl, contains_single]
    rfl
  exact matchAt?_seq hfirst (matchAt?_star_one
    (inLine_of_not_mem fun h => hn (List.mem_cons_of_mem _ h)) (inLine_of_head? hr) rfl)

/-- Another text is not. -/
theorem matchAt?_prompt_none (hp : text.head? ≠ some '$') :
    (seq (one (single '$')) (star true (one inLine))).matchAt? (.start text) = none := by
  refine matchAt?_seq_none fun next hnext => ?_
  rw [ends_one_eq_nil] at hnext
  · exact absurd hnext List.not_mem_nil
  · intro c hc
    rw [contains_single]
    exact decide_eq_false fun he => hp (he ▸ Option.mem_def.1 hc)

/-- A line with its end is taken by the second rule. -/
theorem matchAt?_line (hn : '\n' ∉ line) (rest : List Char) :
    (seq (star true (one inLine)) (one (single '\n'))).matchAt? (.start (line ++ '\n' :: rest)) =
      some ((Cursor.start (line ++ '\n' :: rest)).past (line ++ ['\n'])) := by
  have hend : ∀ c ∈ ('\n' :: rest).head?, c = '\n' := by
    intro c hc
    exact (Option.some.inj (Option.mem_def.1 hc)).symm
  have hline : (star true (one inLine)).matchAt? (.start (line ++ '\n' :: rest)) =
      some ((Cursor.start (line ++ '\n' :: rest)).past line) :=
    matchAt?_star_one (inLine_of_not_mem hn) (inLine_of_head? hend) rfl
  refine matchAt?_seq hline ?_
  have hr : ((Cursor.start (line ++ '\n' :: rest)).past line).rest = '\n' :: rest :=
    Cursor.past_rest rfl
  unfold matchAt?
  rw [ends_one_cons hr, contains_single, Cursor.past_append, decide_eq_true rfl, if_pos rfl]
  show _ = some (((Cursor.start _).past line).advance '\n' ((Cursor.start _).past line).rest.tail)
  rw [hr]
  rfl

/-- A line without an end is not. -/
theorem matchAt?_line_none (hn : '\n' ∉ line) :
    (seq (star true (one inLine)) (one (single '\n'))).matchAt? (.start line) = none := by
  refine matchAt?_seq_none fun next hnext => ends_one_eq_nil fun c hc => ?_
  -- wherever the first part ends, what is left is a part of the line
  obtain ⟨skipped, hr, -⟩ := reaches_of_mem_ends _ _ next hnext
  rw [contains_single]
  refine decide_eq_false fun he => hn ?_
  rw [show line = skipped ++ next.rest from hr]
  exact List.mem_append_right _ (he ▸ List.mem_of_mem_head? hc)

/-- The tokens that are not empty. -/
def inhabited (tokens : List Token) : List Token := tokens.filter fun t => !t.text.isEmpty

theorem inhabited_cons_of_ne (t : TokenKind) (h : text ≠ []) (tokens : List Token) :
    inhabited (⟨t, text⟩ :: tokens) = ⟨t, text⟩ :: inhabited tokens := by
  refine List.filter_cons_of_pos ?_
  cases text with
  | nil => exact absurd rfl h
  | cons c rest => rfl

theorem inhabited_cons_nil (t : TokenKind) (tokens : List Token) :
    inhabited (⟨t, []⟩ :: tokens) = inhabited tokens := rfl

theorem transcript_anchored : Grammar.transcript.Anchored :=
  Grammar.anchored_of_isAnchored (by decide)

/-- The rules of the first state: the prompt, any other line with its end, a line without one. -/
def promptRule : Rule :=
  (Rule.anchored (seq (one (single '$')) (star true (one inLine))) .prompt).switch "prompt-end"

def lineRule : Rule := .anchored (seq (star true (one inLine)) (one (single '\n'))) .output

def lastLineRule : Rule := .anchored (plus true (one inLine)) .output

/-- The rule of the state after the prompt. -/
def lineEndRule : Rule := (Rule.anchored (one (single '\n')) .text).switch "output"

/-- The rule of the state after that. -/
def outputRule : Rule := .anchored (plus true (one anything)) .output

theorem rules?_root :
    Grammar.transcript.rules? rootState = some [promptRule, lineRule, lastLineRule] := rfl

theorem rules?_promptEnd : Grammar.transcript.rules? "prompt-end" = some [lineEndRule] := rfl

theorem rules?_output : Grammar.transcript.rules? "output" = some [outputRule] := rfl

/-- A line before the prompt is output, with its end. -/
theorem run_line (hn : '\n' ∉ line) (hd : line.head? ≠ some '$')
    (later : Run .transcript rootState rest steps) :
    Run .transcript rootState (line ++ '\n' :: rest) (⟨.output, line ++ ['\n']⟩ :: steps) := by
  have hhead : (line ++ '\n' :: rest).head? ≠ some '$' := by
    cases line with
    | nil => exact fun h => absurd (Option.some.inj h) (by decide)
    | cons c line => exact hd
  have happ : line ++ '\n' :: rest = line ++ ['\n'] ++ rest := List.append_cons line '\n' rest
  have hfirst : promptRule.word? (line ++ '\n' :: rest) = none :=
    Rule.word?_of_none rfl (matchAt?_prompt_none hhead)
  have hsecond : lineRule.word? (line ++ '\n' :: rest) = some (line ++ ['\n']) :=
    Rule.word?_of_past rfl (matchAt?_line hn rest) happ
      (List.append_ne_nil_of_right_ne_nil _ (List.cons_ne_nil _ _))
  have hc : choice? [promptRule, lineRule, lastLineRule] (line ++ '\n' :: rest) =
      some (lineRule, line ++ ['\n']) := by
    rw [choice?_cons, hfirst, choice?_cons, hsecond]
    rfl
  exact .rule rules?_root hc happ later

/-- A last line that has no end is output, too. -/
theorem run_last (hn : '\n' ∉ line) (hd : line.head? ≠ some '$') :
    Run .transcript rootState line (inhabited [⟨.output, line⟩]) := by
  rcases eq_or_ne line [] with rfl | hne
  · exact .done rootState
  · have happ : line = line ++ [] := (List.append_nil line).symm
    have hplus : (plus true (one inLine)).matchAt? (.start line) =
        some ((Cursor.start line).past line) :=
      (matchAt?_plus_one (inLine_of_not_mem hn) (fun _ h => absurd h (Option.not_mem_none _))
        happ).trans (if_neg hne)
    have hfirst : promptRule.word? line = none := Rule.word?_of_none rfl (matchAt?_prompt_none hd)
    have hsecond : lineRule.word? line = none := Rule.word?_of_none rfl (matchAt?_line_none hn)
    have hthird : lastLineRule.word? line = some line := Rule.word?_of_past rfl hplus happ hne
    have hc : choice? [promptRule, lineRule, lastLineRule] line = some (lastLineRule, line) := by
      rw [choice?_cons, hfirst, choice?_cons, hsecond, choice?_one, hthird]
      rfl
    rw [inhabited_cons_of_ne _ hne]
    exact .rule rules?_root hc happ (.done _)

/-- The first line that begins with `$` is the prompt, without its end. -/
theorem run_prompt (hn : '\n' ∉ prompt) (hd : prompt.head? = some '$')
    (hr : ∀ c ∈ rest.head?, c = '\n') (later : Run .transcript "prompt-end" rest steps) :
    Run .transcript rootState (prompt ++ rest) (⟨.prompt, prompt⟩ :: steps) := by
  have hne : prompt ≠ [] := fun h => by rw [h] at hd; cases hd
  have hfirst : promptRule.word? (prompt ++ rest) = some prompt :=
    Rule.word?_of_past rfl (matchAt?_prompt hd hn hr) rfl hne
  have hc : choice? [promptRule, lineRule, lastLineRule] (prompt ++ rest) =
      some (promptRule, prompt) := by
    rw [choice?_cons, hfirst]
    rfl
  exact .rule rules?_root hc rfl later

/-- What the prompt leaves at the front is a line end. -/
theorem run_promptEnd (later : Run .transcript "output" rest steps) :
    Run .transcript "prompt-end" ('\n' :: rest) (⟨.text, ['\n']⟩ :: steps) := by
  have hone : (one (single '\n')).matchAt? (.start ('\n' :: rest)) =
      some ((Cursor.start ('\n' :: rest)).past ['\n']) := by
    unfold matchAt?
    rw [ends_one_cons rfl, contains_single]
    rfl
  have hword : lineEndRule.word? ('\n' :: rest) = some ['\n'] :=
    Rule.word?_of_past rfl hone rfl (List.cons_ne_nil _ _)
  have hc : choice? [lineEndRule] ('\n' :: rest) = some (lineEndRule, ['\n']) := by
    rw [choice?_one, hword]
    rfl
  exact .rule rules?_promptEnd hc rfl later

/-- All that follows is output, whatever it is. -/
theorem run_output (output : List Char) :
    Run .transcript "output" output (inhabited [⟨.output, output⟩]) := by
  rcases eq_or_ne output [] with rfl | hne
  · exact .done _
  · have happ : output = output ++ [] := (List.append_nil output).symm
    have hplus : (plus true (one anything)).matchAt? (.start output) =
        some ((Cursor.start output).past output) :=
      (matchAt?_plus_one (fun _ _ => rfl) (fun _ h => absurd h (Option.not_mem_none _))
        happ).trans (if_neg hne)
    have hword : outputRule.word? output = some output := Rule.word?_of_past rfl hplus happ hne
    have hc : choice? [outputRule] output = some (outputRule, output) := by
      rw [choice?_one, hword]
      rfl
    rw [inhabited_cons_of_ne _ hne]
    exact .rule rules?_output hc happ (.done _)

/-! ## Whole texts -/

/-- A text is one line, or a line with its end and a text after it. -/
theorem splitOn_cases (text : List Char) :
    ('\n' ∉ text ∧ text.splitOn '\n' = [text]) ∨
      ∃ line rest, '\n' ∉ line ∧ text = line ++ '\n' :: rest ∧
        text.splitOn '\n' = line :: rest.splitOn '\n' := by
  by_cases h : '\n' ∈ text
  · obtain ⟨line, rest, rfl, hn⟩ := List.eq_append_cons_of_mem h
    exact Or.inr ⟨line, rest, hn, rfl, List.splitOn_append_cons_self_of_not_mem hn rest⟩
  · exact Or.inl ⟨h, List.splitOn_eq_singleton h⟩

/-- The prompt line with all that follows it, in the first state. -/
theorem run_of_first (h : text.splitOn '\n' = prompt :: after) (hd : prompt.head? = some '$') :
    Run .transcript rootState text (⟨.prompt, prompt⟩ ::
      inhabited [⟨.text, if after = [] then [] else ['\n']⟩, ⟨.output, Text.joinLines after⟩]) := by
  rcases splitOn_cases text with ⟨hn, hs⟩ | ⟨line, rest, hn, rfl, hs⟩
  · cases hs.symm.trans h
    have hrun : Run .transcript rootState (text ++ []) [⟨.prompt, text⟩] :=
      run_prompt hn hd (fun _ h => absurd h (Option.not_mem_none _)) (.done "prompt-end")
    rw [List.append_nil] at hrun
    exact hrun
  · cases hs.symm.trans h
    rw [if_neg (List.splitOn_ne_nil _ _), inhabited_cons_of_ne _ (List.cons_ne_nil _ _),
      Text.joinLines, List.intercalate_splitOn]
    exact run_prompt hn hd (fun c hc => (Option.some.inj (Option.mem_def.1 hc)).symm)
      (run_promptEnd (run_output rest))

/-- **With a prompt**: the lines before it are output, one step for each. -/
theorem run_of_prompt (h : text.splitOn '\n' = before ++ prompt :: after)
    (hb : ∀ line ∈ before, line.head? ≠ some '$') (hd : prompt.head? = some '$') :
    Run .transcript rootState text
      (before.map (fun line => ⟨.output, line ++ ['\n']⟩) ++ ⟨.prompt, prompt⟩ ::
        inhabited [⟨.text, if after = [] then [] else ['\n']⟩,
          ⟨.output, Text.joinLines after⟩]) := by
  induction before generalizing text with
  | nil => exact run_of_first h hd
  | cons first before ih =>
    rcases splitOn_cases text with ⟨hn, hs⟩ | ⟨line, rest, hn, rfl, hs⟩
    · exact absurd (List.cons.inj (hs.symm.trans h)).2 (by simp)
    · obtain ⟨rfl, hrest⟩ := List.cons.inj (hs.symm.trans h)
      exact run_line hn (hb line List.mem_cons_self)
        (ih hrest fun l hl => hb l (List.mem_cons_of_mem _ hl))

/-- **Without a prompt** all is output. -/
theorem run_of_no_prompt (h : ∀ line ∈ text.splitOn '\n', line.head? ≠ some '$') :
    ∃ steps, Run .transcript rootState text steps ∧ ∀ t ∈ steps, t.kind = .output := by
  -- on the length of the text, which is shorter after each line
  induction text using (measure List.length).wf.induction with
  | _ text ih =>
    rcases splitOn_cases text with ⟨hn, hs⟩ | ⟨line, rest, hn, rfl, hs⟩
    · refine ⟨_, run_last hn (h text (hs ▸ List.mem_cons_self)), fun t ht => ?_⟩
      rw [List.mem_singleton.1 (List.mem_of_mem_filter ht)]
    · rw [hs] at h
      have hshort : rest.length < (line ++ '\n' :: rest).length := by
        rw [List.length_append, List.length_cons]
        omega
      obtain ⟨steps, hrun, hk⟩ := ih rest hshort fun l hl => h l (List.mem_cons_of_mem _ hl)
      refine ⟨_, run_line hn (h line List.mem_cons_self) hrun, fun t ht => ?_⟩
      rcases List.mem_cons.1 ht with rfl | ht
      · rfl
      · exact hk t ht

/-! ## Tokens -/

theorem textOf_inhabited (tokens : List Token) : textOf (inhabited tokens) = textOf tokens := by
  induction tokens with
  | nil => rfl
  | cons t tokens ih =>
    obtain ⟨kind, text⟩ := t
    rcases eq_or_ne text [] with rfl | hne
    · exact ih
    · rw [inhabited_cons_of_ne kind hne, textOf_cons, textOf_cons, ih]

/-- The steps from the prompt on have nothing to merge. -/
theorem alternating_prompt (prompt lineEnd output : List Char) (h : lineEnd = [] → output = []) :
    Alternating (⟨.prompt, prompt⟩ :: inhabited [⟨.text, lineEnd⟩, ⟨.output, output⟩]) := by
  rcases eq_or_ne lineEnd [] with he | he
  · rw [he, h he]
    exact List.isChain_singleton _
  · rw [inhabited_cons_of_ne _ he]
    rcases eq_or_ne output [] with rfl | ho
    · exact List.isChain_pair.2 TokenKind.noConfusion
    · rw [inhabited_cons_of_ne _ ho]
      exact List.isChain_cons_cons.2
        ⟨TokenKind.noConfusion, List.isChain_pair.2 TokenKind.noConfusion⟩

theorem tokenize_of_run (h : Run .transcript rootState text steps) :
    Grammar.transcript.tokenize text = .ok (coalesce steps) :=
  tokenize_eq_ok.2 ⟨steps, h.scan transcript_anchored, rfl⟩

/-- The tokens of a text with a prompt. -/
theorem tokenize_of_prompt (h : text.splitOn '\n' = before ++ prompt :: after)
    (hb : ∀ line ∈ before, line.head? ≠ some '$') (hd : prompt.head? = some '$') :
    Grammar.transcript.tokenize text = .ok (inhabited
      [⟨.output, before.flatMap (· ++ ['\n'])⟩, ⟨.prompt, prompt⟩,
        ⟨.text, if after = [] then [] else ['\n']⟩, ⟨.output, Text.joinLines after⟩]) := by
  have hne : prompt ≠ [] := fun h => by rw [h] at hd; cases hd
  have halt := alternating_prompt prompt (if after = [] then [] else ['\n'])
    (Text.joinLines after) fun he => by
      split at he
      · rename_i ha
        rw [ha]
        rfl
      · cases he
  have htail := coalesce_of_alternating halt
  rw [tokenize_of_run (run_of_prompt h hb hd)]
  rcases eq_or_ne before [] with rfl | hbefore
  · rw [List.map_nil, List.nil_append, htail, List.flatMap_nil, inhabited_cons_nil,
      inhabited_cons_of_ne _ hne]
  · have hkind : ∀ t ∈ before.map fun line => (⟨.output, line ++ ['\n']⟩ : Token),
        t.kind = .output := by
      intro t ht
      obtain ⟨line, -, rfl⟩ := List.mem_map.1 ht
      rfl
    have htext : textOf (before.map fun line => ⟨.output, line ++ ['\n']⟩) =
        before.flatMap (· ++ ['\n']) := List.flatMap_map ..
    have hfull : before.flatMap (· ++ ['\n']) ≠ [] := by
      cases before with
      | nil => exact absurd rfl hbefore
      | cons line before => simp
    rw [coalesce_group hkind (mt List.map_eq_nil_iff.1 hbefore), htail, htext,
      inhabited_cons_of_ne _ hfull, inhabited_cons_of_ne _ hne]
    rw [htail]
    intro u hu
    rw [← Option.some.inj (Option.mem_def.1 hu)]
    exact TokenKind.noConfusion

/-- The tokens of a text without a prompt. -/
theorem tokenize_of_no_prompt (h : ∀ line ∈ text.splitOn '\n', line.head? ≠ some '$') :
    Grammar.transcript.tokenize text = .ok (inhabited [⟨.output, text⟩]) := by
  obtain ⟨steps, hrun, hk⟩ := run_of_no_prompt h
  have htext := (splits_scan _ _ _ _ (hrun.scan transcript_anchored)).1
  rw [tokenize_of_run hrun]
  rcases eq_or_ne steps [] with rfl | hne
  · rw [← htext]
    rfl
  · have hfull : text ≠ [] := by
      rintro rfl
      exact hne (List.eq_nil_of_length_eq_zero (Nat.le_zero.1 hrun.length_le))
    have hgroup : coalesce (steps ++ []) = [⟨.output, textOf steps⟩] :=
      coalesce_group hk hne fun u hu => absurd hu (Option.not_mem_none _)
    rw [List.append_nil] at hgroup
    rw [hgroup, htext, inhabited_cons_of_ne _ hfull]
    rfl

/-- **The tokens of a transcript**, for every text. The first line that begins with `$` is the
prompt; its line end is plain text, and all before it and after it is output. A text with no such
line is output. So the transcript of a run has the prompt of the run and the output as it is, even
if there are lines in it that begin with `$`. -/
theorem tokenize_transcript :
    (∀ text, ∃ tokens, Grammar.transcript.tokenize text = .ok tokens) ∧
    (∀ text before prompt after, text.splitOn '\n' = before ++ prompt :: after →
      (∀ line ∈ before, line.head? ≠ some '$') → prompt.head? = some '$' →
      let output := before.flatMap (· ++ ['\n'])
      let lineEnd := if after = [] then [] else ['\n']
      text = output ++ prompt ++ lineEnd ++ Text.joinLines after ∧
        Grammar.transcript.tokenize text = .ok (inhabited [⟨.output, output⟩, ⟨.prompt, prompt⟩,
          ⟨.text, lineEnd⟩, ⟨.output, Text.joinLines after⟩])) ∧
    (∀ text, (∀ line ∈ text.splitOn '\n', line.head? ≠ some '$') →
      Grammar.transcript.tokenize text = .ok (inhabited [⟨.output, text⟩])) ∧
    ∀ (id : String) (output : List Char), '\n' ∉ id.toList →
      Grammar.transcript.tokenize (Site.prompt id ++ output) = .ok (inhabited
        [⟨.prompt, "$ run ".toList ++ id.toList⟩, ⟨.text, ['\n']⟩, ⟨.output, output⟩]) := by
  refine ⟨fun text => ?_, fun text before prompt after h hb hd => ?_, fun text h =>
    tokenize_of_no_prompt h, fun id output hid => ?_⟩
  · cases hf : (text.splitOn '\n').find? (·.head? == some '$') with
    | none =>
      exact ⟨_, tokenize_of_no_prompt fun line hl he =>
        List.find?_eq_none.1 hf line hl (beq_iff_eq.2 he)⟩
    | some prompt =>
      obtain ⟨hd, before, after, hs, hb⟩ := List.find?_eq_some_iff_append.1 hf
      exact ⟨_, tokenize_of_prompt hs (fun line hl he => by simpa [he] using hb line hl)
        (beq_iff_eq.1 hd)⟩
  · have ht := tokenize_of_prompt h hb hd
    refine ⟨?_, ht⟩
    rw [← (splits_tokenize ht).covers, textOf_inhabited]
    simp
  · have hn : '\n' ∉ "$ run ".toList ++ id.toList := by
      rw [List.mem_append, not_or]
      exact ⟨by decide, hid⟩
    have htext : Site.prompt id ++ output = ("$ run ".toList ++ id.toList) ++ '\n' :: output :=
      List.append_assoc _ ['\n'] output
    have hs : (("$ run ".toList ++ id.toList) ++ '\n' :: output).splitOn '\n' =
        [] ++ ("$ run ".toList ++ id.toList) :: output.splitOn '\n' :=
      List.splitOn_append_cons_self_of_not_mem hn output
    rw [htext, tokenize_of_prompt hs (fun _ h => absurd h List.not_mem_nil) rfl,
      if_neg (List.splitOn_ne_nil _ _), Text.joinLines, List.intercalate_splitOn]
    rfl

/-- Two lines that begin with `$`, none, no text at all, and a run with such a line in its
output. -/
theorem tokenize_transcript_two_dollars :
    Grammar.transcript.tokenize "a\n$ b\n$ c".toList =
      .ok [⟨.output, "a\n".toList⟩, ⟨.prompt, "$ b".toList⟩, ⟨.text, "\n".toList⟩,
        ⟨.output, "$ c".toList⟩] ∧
    Grammar.transcript.tokenize "a\n b".toList = .ok [⟨.output, "a\n b".toList⟩] ∧
    Grammar.transcript.tokenize [] = .ok [] ∧
    Grammar.transcript.tokenize (Site.prompt "x" ++ "$ y\n".toList) =
      .ok [⟨.prompt, "$ run x".toList⟩, ⟨.text, "\n".toList⟩, ⟨.output, "$ y\n".toList⟩] := by
  obtain ⟨-, hprompt, hnone, hrun⟩ := tokenize_transcript
  refine ⟨?_, hnone "a\n b".toList (by decide), hnone [] (by decide), ?_⟩
  · exact (hprompt "a\n$ b\n$ c".toList ["a".toList] "$ b".toList ["$ c".toList] (by decide)
      (by decide) (by decide)).2
  · exact hrun "x" "$ y\n".toList (by decide)

end LiterateSite.Highlight
