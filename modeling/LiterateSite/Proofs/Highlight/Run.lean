import LiterateSite.Proofs.Highlight.Merge
import LiterateSite.Proofs.Pattern.Ends

/-!
# Runs of a grammar

* `choice?`: the first rule with a match at the current position that is not empty.
* `Run`: a run of a grammar before its tokens are merged, as a relation.
* `Grammar.Anchored`: no pattern of the grammar matches at a later position than the current one.
* `scan_eq_ok_iff`: **the steps of such a grammar are its one run**, `Run.unique`.
* `tokenize_merges_run`: **the tokens of a text**, for every grammar.
-/

namespace LiterateSite.Highlight

open Grammar (rootState)

variable {g : Grammar} {rule : Rule} {rules : List Rule} {state : String}
variable {text word rest : List Char} {steps tokens : List Token}

/-! ## One rule -/

/-- What the pattern of the rule matches at the start of the text, unless that is empty. -/
def Rule.word? (rule : Rule) (text : List Char) : Option (List Char) :=
  match rule.pattern.find? text with
  | some ⟨0, stop⟩ => if stop.consumed = 0 then none else some (text.take stop.consumed)
  | _ => none

/-- The first rule whose pattern matches at the start of the text, with what it matches. -/
def choice? (rules : List Rule) (text : List Char) : Option (Rule × List Char) :=
  rules.findSome? fun rule => (rule.word? text).map fun word => (rule, word)

/-- A match of the rule's pattern begins at the current position. -/
def Rule.Anchored (rule : Rule) : Prop :=
  ∀ text m, rule.pattern.find? text = some m → m.start = 0

/-- Every pattern matches at the current position only. -/
def Grammar.Anchored (g : Grammar) : Prop :=
  ∀ state rules, g.rules? state = some rules → ∀ rule ∈ rules, rule.Anchored

theorem Rule.anchored_of_isAnchored (h : rule.pattern.isAnchored = true) : rule.Anchored :=
  fun _ _ hm => Pattern.start_of_isAnchored h hm

theorem Grammar.anchored_of_isAnchored
    (h : ∀ entry ∈ g.states, ∀ rule ∈ entry.2, rule.pattern.isAnchored = true) : g.Anchored := by
  intro state rules hs rule hr
  obtain ⟨earlier, later, he, -⟩ := List.lookup_eq_some_iff.1 hs
  have hm : (state, rules) ∈ g.states := by
    rw [he]
    exact List.mem_append_right _ List.mem_cons_self
  exact Rule.anchored_of_isAnchored (h _ hm rule hr)

/-- **What a rule takes** is not empty, and the text begins with it. -/
theorem Rule.of_word? (h : rule.word? text = some word) :
    word ≠ [] ∧ ∃ stop : Cursor, rule.pattern.find? text = some ⟨0, stop⟩ ∧
      text = word ++ stop.rest ∧ stop.consumed = word.length := by
  unfold Rule.word? at h
  split at h
  · rename_i stop hf
    split at h
    · cases h
    · rename_i hpos
      obtain ⟨skipped, taken, ht, hs, hc⟩ := Pattern.of_find? hf
      have hc : stop.consumed = taken.length := hc.trans (Nat.zero_add _)
      have ht : text = taken ++ stop.rest := by
        rw [List.eq_nil_of_length_eq_zero hs.symm] at ht
        exact ht
      have hw : word = taken := by
        rw [← Option.some.inj h, hc, ht, List.take_left]
      rw [hw]
      refine ⟨fun hn => hpos ?_, stop, hf, ht, hc⟩
      rw [hc, hn, List.length_nil]
  · cases h

/-- The length that a rule takes is that of its match. -/
theorem Rule.length?_eq (hr : rule.Anchored) (text : List Char) :
    rule.length? text = (rule.word? text).map List.length := by
  unfold Rule.length?
  cases hf : rule.pattern.find? text with
  | none => simp [Rule.word?, hf]
  | some m =>
    obtain ⟨start, stop⟩ := m
    obtain rfl : start = 0 := hr text _ hf
    by_cases hpos : stop.consumed = 0
    · simp [Rule.word?, hf, Match.isEmpty, hpos]
    · have hword : rule.word? text = some (text.take stop.consumed) := by
        simp [Rule.word?, hf, hpos]
      obtain ⟨-, stop', hf', -, hc⟩ := Rule.of_word? hword
      obtain rfl : stop = stop' := congrArg Match.stop (Option.some.inj (hf.symm.trans hf'))
      rw [hword, Option.map_some, ← hc]
      exact if_neg fun h => hpos (beq_iff_eq.1 h).symm

theorem choice?_cons (rule : Rule) (rules : List Rule) (text : List Char) :
    choice? (rule :: rules) text =
      ((rule.word? text).map fun word => (rule, word)).or (choice? rules text) := by
  unfold choice?
  rw [List.findSome?_cons]
  cases rule.word? text <;> rfl

theorem choice?_one (rule : Rule) (text : List Char) :
    choice? [rule] text = (rule.word? text).map fun word => (rule, word) := by
  rw [choice?_cons]
  cases rule.word? text <;> rfl

/-- **The choice** is the first rule that takes anything. -/
theorem of_choice? (h : choice? rules text = some (rule, word)) :
    rule.word? text = some word ∧
      ∃ earlier later, rules = earlier ++ rule :: later ∧ ∀ r ∈ earlier, r.word? text = none := by
  obtain ⟨earlier, chosen, later, rfl, hc, hn⟩ := List.findSome?_eq_some_iff.1 h
  obtain ⟨taken, hw, hp⟩ := Option.map_eq_some_iff.1 hc
  cases hp
  exact ⟨hw, earlier, later, rfl, fun r hr => Option.map_eq_none_iff.1 (hn r hr)⟩

/-- The step of a state is that of the chosen rule, or takes one character as plain text. -/
theorem stepOf_eq (hr : ∀ rule ∈ rules, rule.Anchored) (state : String) (text : List Char) :
    stepOf state text rules =
      match choice? rules text with
      | some (rule, word) => ⟨rule.kind, word.length, rule.next.getD state⟩
      | none => ⟨.text, 1, state⟩ := by
  induction rules with
  | nil => rfl
  | cons rule later ih =>
    have hlen := Rule.length?_eq (hr rule List.mem_cons_self) text
    rw [choice?_cons]
    unfold stepOf
    cases hw : rule.word? text with
    | none =>
      rw [hlen, hw]
      exact ih fun r hm => hr r (List.mem_cons_of_mem _ hm)
    | some word =>
      obtain ⟨n, hn⟩ := Nat.exists_eq_succ_of_ne_zero
        (mt List.eq_nil_of_length_eq_zero (Rule.of_word? hw).1)
      rw [hlen, hw, Option.map_some, Option.map_some, Option.some_or, hn]
      simp only [hn]

/-! ## Runs -/

/-- **A run** of the grammar from a state on, with a token for each step: the first rule of the
state whose pattern matches at the current position, not only the empty text, emits its match and
may switch the state; if there is none, one character is emitted as plain text. -/
inductive Run (g : Grammar) : String → List Char → List Token → Prop
  | done (state : String) : Run g state [] []
  | rule {state : String} {rules : List Rule} {rule : Rule} {text word rest : List Char}
      {steps : List Token} (hs : g.rules? state = some rules)
      (hc : choice? rules text = some (rule, word)) (ht : text = word ++ rest)
      (later : Run g (rule.next.getD state) rest steps) :
      Run g state text (⟨rule.kind, word⟩ :: steps)
  | plain {state : String} {rules : List Rule} {c : Char} {rest : List Char} {steps : List Token}
      (hs : g.rules? state = some rules) (hc : choice? rules (c :: rest) = none)
      (later : Run g state rest steps) : Run g state (c :: rest) (⟨.text, [c]⟩ :: steps)

namespace Run

/-- A run takes at least one character with each step. -/
theorem length_le (h : Run g state text steps) : steps.length ≤ text.length := by
  induction h with
  | done => exact Nat.le_refl 0
  | rule hs hc ht later ih =>
    have hpos := List.length_pos_iff.2 (Rule.of_word? (of_choice? hc).1).1
    rw [ht, List.length_cons, List.length_append]
    omega
  | plain hs hc later ih => exact Nat.succ_le_succ ih

/-- What a rule takes is not empty. -/
theorem choice?_nil (h : choice? rules [] = some (rule, word)) : False := by
  obtain ⟨hne, stop, -, ht, -⟩ := Rule.of_word? (of_choice? h).1
  exact hne (List.append_eq_nil_iff.1 ht.symm).1

/-- **There is only one run.** -/
theorem unique (h : Run g state text steps) {other : List Token} (h' : Run g state text other) :
    other = steps := by
  induction h generalizing other with
  | done =>
    cases h' with
    | done => rfl
    | rule hs hc ht later => exact (choice?_nil hc).elim
  | rule hs hc ht later ih =>
    cases h' with
    | done => exact (choice?_nil hc).elim
    | rule hs' hc' ht' later' =>
      cases hs.symm.trans hs'
      cases hc.symm.trans hc'
      cases List.append_cancel_left (ht.symm.trans ht')
      rw [ih later']
    | plain hs' hc' later' =>
      cases hs.symm.trans hs'
      cases hc.symm.trans hc'
  | plain hs hc later ih =>
    cases h' with
    | rule hs' hc' ht' later' =>
      cases hs.symm.trans hs'
      cases hc.symm.trans hc'
    | plain hs' hc' later' => rw [ih later']

end Run

theorem scan_nil (g : Grammar) (state : String) : g.scan state [] = .ok [] := by
  rw [Grammar.scan]

/-- A scan goes on with the text after its first step. -/
theorem scan_step {c : Char} {cs : List Char} {step : Step} (hs : g.rules? state = some rules)
    (hstep : stepOf state (c :: cs) rules = step) :
    g.scan state (c :: cs) = (g.scan step.state ((c :: cs).drop step.length)).map
      (⟨step.kind, (c :: cs).take step.length⟩ :: ·) := by
  rw [Grammar.scan]
  simp only [hs, hstep]
  cases g.scan step.state ((c :: cs).drop step.length) <;> rfl

/-- **The steps of a scan are a run.** -/
theorem run_of_scan (hg : g.Anchored) (state : String) (text : List Char) :
    ∀ steps, g.scan state text = .ok steps → Run g state text steps := by
  -- on the length of the text, as the scan itself
  induction text using (measure List.length).wf.induction generalizing state with
  | _ text ih =>
    intro steps h
    cases text with
    | nil =>
      rw [scan_nil] at h
      cases h
      exact .done state
    | cons c cs =>
      obtain ⟨rules, later, hs, hl, rfl⟩ := scan_cons h
      have hshort : ∀ n, 0 < n → ((c :: cs).drop n).length < (c :: cs).length := by
        intro n hn
        rw [List.length_drop, List.length_cons]
        omega
      have hstep := stepOf_eq (hg state rules hs) state (c :: cs)
      cases hc : choice? rules (c :: cs) with
      | none =>
        rw [hc] at hstep
        rw [hstep] at hl ⊢
        exact .plain hs hc (ih _ (hshort 1 Nat.one_pos) state later hl)
      | some chosen =>
        obtain ⟨rule, word⟩ := chosen
        rw [hc] at hstep
        rw [hstep] at hl ⊢
        obtain ⟨hne, stop, -, ht, -⟩ := Rule.of_word? (of_choice? hc).1
        have hdrop : (c :: cs).drop word.length = stop.rest := by rw [ht, List.drop_left]
        have htake : (c :: cs).take word.length = word := by rw [ht, List.take_left]
        show Run g state (c :: cs) (⟨rule.kind, (c :: cs).take word.length⟩ :: later)
        rw [htake]
        refine .rule hs hc ht (hdrop ▸ ih _ (hshort _ (List.length_pos_iff.2 hne)) _ later hl)

/-- **A run is what the scan gives.** -/
theorem Run.scan (hg : g.Anchored) (h : Run g state text steps) :
    g.scan state text = .ok steps := by
  induction h with
  | done state => exact scan_nil g state
  | @rule state rules rule text word rest steps hs hc ht later ih =>
    have hstep := stepOf_eq (hg state rules hs) state text
    rw [hc] at hstep
    cases text with
    | nil => exact (choice?_nil hc).elim
    | cons c cs =>
      rw [scan_step hs hstep]
      show Except.map _ (g.scan (rule.next.getD state) ((c :: cs).drop word.length)) = _
      rw [ht, List.drop_left, ih, List.take_left]
      rfl
  | @plain state rules c rest steps hs hc later ih =>
    have hstep := stepOf_eq (hg state rules hs) state (c :: rest)
    rw [hc] at hstep
    rw [scan_step hs hstep]
    show Except.map _ (g.scan state rest) = _
    rw [ih]
    rfl

/-- **The steps of a scan** are the run of the grammar. -/
theorem scan_eq_ok_iff (hg : g.Anchored) : g.scan state text = .ok steps ↔ Run g state text steps :=
  ⟨run_of_scan hg state text steps, Run.scan hg⟩

/-- A scan that fails has come to a state that the grammar lacks. -/
theorem of_scan_error (state : String) (text : List Char) :
    ∀ e, g.scan state text = .error e → ∃ missing, e = .missingState g.name missing ∧
      g.rules? missing = none := by
  induction text using (measure List.length).wf.induction generalizing state with
  | _ text ih =>
    intro e h
    cases text with
    | nil =>
      rw [scan_nil] at h
      cases h
    | cons c cs =>
      cases hs : g.rules? state with
      | none =>
        rw [Grammar.scan] at h
        simp only [hs] at h
        cases h
        exact ⟨state, rfl, hs⟩
      | some rules =>
        rw [scan_step hs rfl] at h
        cases hl : g.scan (stepOf state (c :: cs) rules).state
            ((c :: cs).drop (stepOf state (c :: cs) rules).length) with
        | ok later => rw [hl] at h; cases h
        | error e' =>
          rw [hl] at h
          cases h
          refine ih _ ?_ _ _ hl
          have := stepOf_length_pos state (c :: cs) rules
          show ((c :: cs).drop _).length < (c :: cs).length
          rw [List.length_drop, List.length_cons]
          omega

/-! ## Tokens -/

/-- The tokens of a text are the merged steps of its scan. -/
theorem tokenize_eq_ok : g.tokenize text = .ok tokens ↔
    ∃ steps, g.scan rootState text = .ok steps ∧ tokens = coalesce steps := by
  unfold Grammar.tokenize
  cases g.scan rootState text with
  | error e => simp [Except.map]
  | ok steps =>
    constructor
    · intro h
      exact ⟨steps, rfl, (Except.ok.inj h).symm⟩
    · rintro ⟨_, hs, rfl⟩
      cases hs
      rfl

/-- **The tokens of a text**, for every grammar and every text. There are tokens, or the grammar
lacks a state that it switches to. The tokens cover the text, none is empty, and no two neighbours
are of one kind. If the patterns match at the current position only, then there are tokens exactly
if there is a run, and they are the one run there is with its neighbours of one kind glued, which is
what one gets by gluing each step to the last token as it comes in. -/
theorem tokenize_merges_run (g : Grammar) (text : List Char) :
    ((∃ tokens, g.tokenize text = .ok tokens) ∨
      ∃ state, g.tokenize text = .error (.missingState g.name state) ∧ g.rules? state = none) ∧
    (∀ tokens, g.tokenize text = .ok tokens →
      textOf tokens = text ∧ (∀ t ∈ tokens, t.text ≠ []) ∧
        tokens.IsChain fun t u => t.kind ≠ u.kind) ∧
    (g.Anchored → ∀ tokens, g.tokenize text = .ok tokens ↔
      ∃ run, Run g rootState text run ∧ (∀ other, Run g rootState text other → other = run) ∧
        run.length ≤ text.length ∧ Merged run tokens ∧ tokens = run.foldl Token.join []) := by
  refine ⟨?_, fun tokens h => ?_, fun hg tokens => ⟨fun h => ?_, ?_⟩⟩
  · cases h : g.scan rootState text with
    | ok steps => exact Or.inl ⟨_, tokenize_eq_ok.2 ⟨steps, h, rfl⟩⟩
    | error e =>
      obtain ⟨missing, rfl, hm⟩ := of_scan_error rootState text e h
      refine Or.inr ⟨missing, ?_, hm⟩
      unfold Grammar.tokenize
      rw [h]
      rfl
  · have hs := splits_tokenize h
    exact ⟨hs.covers, hs.inhabited, hs.alternating⟩
  · obtain ⟨run, hs, rfl⟩ := tokenize_eq_ok.1 h
    have hrun := (scan_eq_ok_iff hg).1 hs
    exact ⟨run, hrun, fun other h => hrun.unique h, hrun.length_le, merged_coalesce run,
      (foldl_join run).symm⟩
  · rintro ⟨run, hrun, -, -, -, rfl⟩
    exact tokenize_eq_ok.2 ⟨run, hrun.scan hg, foldl_join run⟩

/-- A grammar that goes round between two states, with a pattern that matches the empty text at
every character but `b`: the four steps of its run become three tokens. -/
theorem tokenize_merges_run_in_circles :
    let there := (Rule.anchored (.one (.single 'a')) .keyword).switch "other"
    let empty := Rule.anchored (.star true (.one (.single 'b'))) .string
    let back := (Rule.anchored (.one (.single 'a')) .keyword).switch "root"
    let g : Grammar :=
      { name := "circles", states := [("root", [there]), ("other", [empty, back])] }
    let tokens : List Token := [⟨.keyword, ['a', 'a']⟩, ⟨.text, ['c']⟩, ⟨.keyword, ['a']⟩]
    g.Anchored ∧ g.tokenize ['a', 'a', 'c', 'a'] = .ok tokens ∧
      textOf tokens = ['a', 'a', 'c', 'a'] ∧
      ∃ run, Run g "root" ['a', 'a', 'c', 'a'] run ∧ run.length = 4 ∧ Merged run tokens := by
  intro there empty back g tokens
  have hg : g.Anchored := Grammar.anchored_of_isAnchored (by decide)
  have hthere : choice? [there] ['a', 'a', 'c', 'a'] = some (there, ['a']) := by
    rw [choice?_one, show there.word? ['a', 'a', 'c', 'a'] = some ['a'] by decide +kernel]
    rfl
  have hback : choice? [empty, back] ['a', 'c', 'a'] = some (back, ['a']) := by
    rw [choice?_cons, choice?_one, show empty.word? ['a', 'c', 'a'] = none by decide +kernel,
      show back.word? ['a', 'c', 'a'] = some ['a'] by decide +kernel]
    rfl
  have hplain : choice? [there] ['c', 'a'] = none := by
    rw [choice?_one, show there.word? ['c', 'a'] = none by decide +kernel]
    rfl
  have hlast : choice? [there] ['a'] = some (there, ['a']) := by
    rw [choice?_one, show there.word? ['a'] = some ['a'] by decide +kernel]
    rfl
  have hrun : Run g "root" ['a', 'a', 'c', 'a']
      [⟨.keyword, ['a']⟩, ⟨.keyword, ['a']⟩, ⟨.text, ['c']⟩, ⟨.keyword, ['a']⟩] :=
    .rule rfl hthere rfl (.rule rfl hback rfl (.plain rfl hplain (.rule rfl hlast rfl (.done _))))
  have ht := ((tokenize_merges_run g _).2.2 hg tokens).2
    ⟨_, hrun, fun other h => hrun.unique h, by decide, merged_coalesce _, rfl⟩
  exact ⟨hg, ht, ((tokenize_merges_run g _).2.1 tokens ht).1, _, hrun, rfl, merged_coalesce _⟩

/-- **A pattern that is not bound to the current position.** What binds a pattern is put around its
text, and a bracket in the text ends the group: the rule for `a)|(?:b` finds the `b` in `xb` and
takes all up to its end. The one run of the grammar, in which rules match at the current position,
leaves the `x` as plain text. -/
theorem tokenize_past_bound :
    ∃ rule, Rule.read "a)|(?:b" .keyword = .ok rule ∧
      let g : Grammar := { name := "g", states := [("root", [rule])] }
      g.tokenize ['x', 'b'] = .ok [⟨.keyword, ['x', 'b']⟩] ∧
      Run g "root" ['x', 'b'] [⟨.text, ['x']⟩, ⟨.keyword, ['b']⟩] ∧
      ¬∃ run, Run g "root" ['x', 'b'] run ∧ Merged run [⟨.keyword, ['x', 'b']⟩] := by
  have hfinds : (Pattern.read? ("^(?:".toList ++ "a)|(?:b".toList ++ [')'])).map (fun p =>
      (p.find? ['x', 'b'], p.find? ['b'])) =
        some (some ⟨1, ⟨some 'b', 2, []⟩⟩, some ⟨0, ⟨some 'b', 1, []⟩⟩) := by
    decide +kernel
  obtain ⟨p, hp, hfound⟩ := Option.map_eq_some_iff.1 hfinds
  obtain ⟨hx, hb⟩ := Prod.mk.inj hfound
  let rule : Rule := ⟨p, .keyword, none⟩
  refine ⟨rule, by unfold Rule.read; rw [hp], ?_⟩
  intro g
  have hstep : stepOf "root" ['x', 'b'] [rule] = ⟨.keyword, 2, "root"⟩ := by
    simp [stepOf, rule, Rule.length?, hx, Match.isEmpty]
  have hrun : Run g "root" ['x', 'b'] [⟨.text, ['x']⟩, ⟨.keyword, ['b']⟩] := by
    have hplain : choice? [rule] ['x', 'b'] = none := by
      rw [choice?_one, show rule.word? ['x', 'b'] = none by simp [rule, Rule.word?, hx]]
      rfl
    have hlast : choice? [rule] ['b'] = some (rule, ['b']) := by
      rw [choice?_one, show rule.word? ['b'] = some ['b'] by simp [rule, Rule.word?, hb]]
      rfl
    exact .plain rfl hplain (.rule rfl hlast rfl (.done _))
  refine ⟨?_, hrun, ?_⟩
  · refine tokenize_eq_ok.2 ⟨[⟨.keyword, ['x', 'b']⟩], ?_, rfl⟩
    rw [show rootState = "root" from rfl, scan_step (show g.rules? "root" = some [rule] from rfl)
      hstep]
    show Except.map _ (g.scan "root" []) = _
    rw [scan_nil]
    rfl
  · -- the first step is plain text, and so would be the token that it is glued into
    rintro ⟨run, h, groups, hflat, hglued, -⟩
    obtain rfl := hrun.unique h
    obtain ⟨group, _, hg, hnil, rfl⟩ := List.forall₂_cons_left_iff.1 hglued
    obtain rfl := List.forall₂_nil_left_iff.1 hnil
    have hm : (⟨.text, ['x']⟩ : Token) ∈ group := by
      rw [show group = _ from (List.append_nil group).symm.trans hflat]
      exact List.mem_cons_self
    cases hg.kind _ hm

end LiterateSite.Highlight
