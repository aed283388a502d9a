import LiterateSite.Highlight.Highlighter
import LiterateSite.Proofs.Highlight.Selected

/-!
# States of a grammar

The states that a text is tokenized in, and the only error there is.

* `Grammar.Closed`: the grammar has all states that it names. `Grammar.closed_of_states`: it is
  enough to look at the lists of rules.
* `stepOf_state`: **a step keeps its state or switches to one that a rule names**, from which
  `Grammar.Closed.visits` gets the states of a whole text.
* `scan_error_iff`: **a text fails at a place whose state is missing**, and not otherwise.
* `tokenize_fails_iff_missing`: both for the tokens of a text, with the built-in grammars.
-/

namespace LiterateSite.Highlight

open Pattern (one)
open Grammar (rootState)

variable {g : Grammar} {rules : List Rule} {state : String} {e : HighlightError}
variable {text rest : List Char} {done : List Token}

/-! ## Closed grammars -/

/-- The grammar has a state. -/
def Grammar.Has (g : Grammar) (state : String) : Prop := ∃ rules, g.rules? state = some rules

/-- **A closed grammar** has the state that it starts in and every state that its rules switch to. -/
structure Grammar.Closed (g : Grammar) : Prop where
  root : g.Has rootState
  next : ∀ state rules, g.rules? state = some rules → ∀ rule ∈ rules, ∀ target,
    rule.next = some target → g.Has target

theorem Grammar.has_iff : g.Has state ↔ g.rules? state ≠ none := by
  unfold Grammar.Has
  rw [Option.ne_none_iff_exists']

/-- The states that rules of the lists switch to are there. -/
theorem Grammar.closed_of_states (hroot : (g.rules? rootState).isSome = true)
    (h : g.states.all (fun entry => entry.2.all fun rule => rule.next.all fun target =>
      (g.rules? target).isSome) = true) : g.Closed := by
  refine ⟨Option.isSome_iff_exists.1 hroot, ?_⟩
  intro state rules hs rule hrule target htarget
  -- the rules of a state stand in one of the lists
  have hmem : (state, rules) ∈ g.states := by
    obtain ⟨front, back, hsplit, -⟩ := List.lookup_eq_some_iff.1 hs
    rw [hsplit]
    simp
  have hall := List.all_eq_true.1 (List.all_eq_true.1 h _ hmem) rule hrule
  rw [htarget] at hall
  exact Option.isSome_iff_exists.1 hall

theorem javascript_closed : Grammar.javascript.Closed :=
  Grammar.closed_of_states (by decide) (by decide)

theorem transcript_closed : Grammar.transcript.Closed :=
  Grammar.closed_of_states (by decide) (by decide)

/-! ## States on the way -/

/-- **The state after a step** is the one before it, or one that a rule switches to. -/
theorem stepOf_state (state : String) (text : List Char) (rules : List Rule) :
    (stepOf state text rules).state = state ∨
      ∃ rule ∈ rules, rule.next = some (stepOf state text rules).state := by
  induction rules with
  | nil => exact .inl rfl
  | cons rule later ih =>
    unfold stepOf
    split
    · -- the rule is taken
      cases hn : rule.next with
      | none => exact .inl rfl
      | some target => exact .inr ⟨rule, List.mem_cons_self, hn⟩
    · rcases ih with hsame | ⟨r, hr, hnext⟩
      · exact .inl hsame
      · exact .inr ⟨r, List.mem_cons_of_mem _ hr, hnext⟩

/-- A step from a state of a closed grammar leads to one. -/
theorem Grammar.Closed.step (hg : g.Closed) (hs : g.rules? state = some rules)
    (text : List Char) : g.Has (stepOf state text rules).state := by
  rcases stepOf_state state text rules with hsame | ⟨rule, hrule, hnext⟩
  · rw [hsame]
    exact ⟨rules, hs⟩
  · exact hg.next state rules hs rule hrule _ hnext

/-- **A closed grammar has every state** that a text is tokenized in. -/
theorem Grammar.Closed.visits (hg : g.Closed) (hv : g.Visits text done state rest) :
    g.Has state := by
  induction hv with
  | start => exact hg.root
  | step visit hs hstep ih =>
    rw [← hstep]
    exact hg.step hs _

/-! ## The error -/

/-- A scan fails if it fails from a place that it has come to. -/
theorem Grammar.Visits.scan_error (hv : g.Visits text done state rest)
    (h : g.scan state rest = .error e) : g.scan rootState text = .error e := by
  induction hv with
  | start => exact h
  | step visit hs hstep ih =>
    apply ih
    rw [scan_step hs hstep, h]
    rfl

/-- A scan that fails has come to a place whose state is missing, with text left. -/
theorem Grammar.Visits.of_scan_error (hv : g.Visits text done state rest)
    (h : g.scan state rest = .error e) : ∃ done state rest, g.Visits text done state rest ∧
      rest ≠ [] ∧ g.rules? state = none ∧ e = .missingState g.name state := by
  -- on the text left, as the scan itself
  induction hlen : rest.length using Nat.strong_induction_on generalizing done state rest with
  | _ n ih =>
    cases rest with
    | nil =>
      rw [scan_nil] at h
      cases h
    | cons c rest =>
      cases hs : g.rules? state with
      | none =>
        have herror : g.scan state (c :: rest) = .error (.missingState g.name state) := by
          rw [Grammar.scan]
          simp only [hs]
        rw [herror] at h
        cases h
        exact ⟨done, state, c :: rest, hv, List.cons_ne_nil c rest, hs, rfl⟩
      | some rules =>
        have hpos := stepOf_length_pos state (c :: rest) rules
        have hshort : ((c :: rest).drop (stepOf state (c :: rest) rules).length).length < n := by
          rw [List.length_drop, ← hlen, List.length_cons]
          omega
        refine ih _ hshort (hv.step hs rfl) ?_ rfl
        -- the first step succeeds, so it is a later one that fails
        rw [scan_step hs rfl] at h
        cases hl : g.scan (stepOf state (c :: rest) rules).state
            ((c :: rest).drop (stepOf state (c :: rest) rules).length) with
        | ok later => rw [hl] at h; cases h
        | error e' => rw [hl] at h; cases h; rfl

/-- **A scan fails** exactly if it comes to a place whose state is missing, with text left. -/
theorem scan_error_iff : g.scan rootState text = .error e ↔
    ∃ done state rest, g.Visits text done state rest ∧ rest ≠ [] ∧ g.rules? state = none ∧
      e = .missingState g.name state := by
  constructor
  · intro h
    exact Grammar.Visits.start.of_scan_error h
  · rintro ⟨done, state, rest, hv, hrest, hs, rfl⟩
    apply hv.scan_error
    obtain ⟨c, cs, rfl⟩ := List.exists_cons_of_ne_nil hrest
    rw [Grammar.scan]
    simp only [hs]

theorem tokenize_eq_error : g.tokenize text = .error e ↔ g.scan rootState text = .error e := by
  unfold Grammar.tokenize
  cases g.scan rootState text with
  | ok steps => simp [Except.map]
  | error err => simp [Except.map]

/-- There are tokens unless the text comes to a state that is missing. -/
theorem tokenize_ok_of_visits (h : ∀ done state rest, g.Visits text done state rest → g.Has state) :
    ∃ tokens, g.tokenize text = .ok tokens := by
  cases ht : g.tokenize text with
  | ok tokens => exact ⟨tokens, rfl⟩
  | error e =>
    obtain ⟨done, state, rest, hv, -, hs, -⟩ := scan_error_iff.1 (tokenize_eq_error.1 ht)
    exact absurd hs (Grammar.has_iff.1 (h done state rest hv))

theorem Grammar.Closed.tokenize (hg : g.Closed) (text : List Char) :
    ∃ tokens, g.tokenize text = .ok tokens :=
  tokenize_ok_of_visits fun _ _ _ hv => hg.visits hv

/-! ## Highlighting -/

/-- A language whose grammar is closed is highlighted without an error. -/
theorem highlight_ok {r : Registry} {language : String} (hfind : r.find? language = some g)
    (hg : g.Closed) (text : List Char) (theme : Theme) :
    ∃ markup, r.highlight text language theme = .ok markup := by
  obtain ⟨tokens, ht⟩ := hg.tokenize text
  refine ⟨Markup.format theme.name tokens, ?_⟩
  unfold Registry.highlight Registry.tokenize
  rw [hfind]
  simp only [ht]
  rfl

/-- **The grammar that is found** for a language of the built-in ones is closed. -/
theorem builtin_closed {language : String}
    (h : ∃ g ∈ Registry.builtin.grammars, g.answersTo language = true) :
    ∃ g, Registry.builtin.find? language = some g ∧ g.Closed := by
  obtain ⟨g, hfind⟩ := Option.isSome_iff_exists.1 (List.find?_isSome.2 h)
  refine ⟨g, hfind, ?_⟩
  have hmem : g ∈ [Grammar.javascript, .transcript] := List.mem_of_find?_eq_some hfind
  rcases List.mem_cons.1 hmem with rfl | hmem
  · exact javascript_closed
  · rw [List.mem_singleton.1 hmem]
    exact transcript_closed

/-- **When a text cannot be tokenized.** A closed grammar gives tokens for every text, and markup in
every language that it is found for. The built-in grammars are closed, so that there is markup for
every text in a language that one of them answers to.

For every grammar the one error is a missing state, and it arises exactly if the run comes to a
place that has text left and whose state the grammar lacks: the tokens before it are the text up to
there. A switch to a missing state with the last token of a text is no error. -/
theorem tokenize_fails_iff_missing (g : Grammar) (text : List Char) :
    (g.Closed → (∃ tokens, g.tokenize text = .ok tokens) ∧
      ∀ (r : Registry) language theme, r.find? language = some g →
        ∃ markup, r.highlight text language theme = .ok markup) ∧
    (Grammar.javascript.Closed ∧ Grammar.transcript.Closed) ∧
    (∀ language theme,
      Grammar.javascript.answersTo language = true ∨
        Grammar.transcript.answersTo language = true →
      ∃ markup, Registry.builtin.highlight text language theme = .ok markup) ∧
    ∀ e, g.tokenize text = .error e ↔
      ∃ done state rest, g.Visits text done state rest ∧ text = textOf done ++ rest ∧ rest ≠ [] ∧
        g.rules? state = none ∧ e = .missingState g.name state := by
  refine ⟨fun hg => ⟨hg.tokenize text, fun r language theme hfind => ?_⟩,
    ⟨javascript_closed, transcript_closed⟩, fun language theme h => ?_, fun e => ?_⟩
  · exact highlight_ok hfind hg text theme
  · have hanswers : ∃ g ∈ Registry.builtin.grammars, g.answersTo language = true := by
      rcases h with h | h
      · exact ⟨.javascript, List.mem_cons_self, h⟩
      · exact ⟨.transcript, List.mem_cons_of_mem _ List.mem_cons_self, h⟩
    obtain ⟨found, hfind, hclosed⟩ := builtin_closed hanswers
    exact highlight_ok hfind hclosed text theme
  · rw [tokenize_eq_error, scan_error_iff]
    constructor
    · rintro ⟨done, state, rest, hv, hrest, hs, he⟩
      exact ⟨done, state, rest, hv, hv.covers, hrest, hs, he⟩
    · rintro ⟨done, state, rest, hv, -, hrest, hs, he⟩
      exact ⟨done, state, rest, hv, hrest, hs, he⟩

/-- Two states that lead to each other, and a switch to a state that is missing: it is an error if
there is text left, and none at the end of the text. -/
theorem tokenize_fails_iff_missing_quotes :
    let quote := Rule.anchored (one (.single '\'')) .string
    let g : Grammar :=
      { name := "quotes", states := [("root", [quote.switch "in"]), ("in", [quote.switch "root"])] }
    let broken : Grammar := { name := "broken", states := [("root", [quote.switch "in"])] }
    g.Closed ∧ (∃ tokens, g.tokenize ['a', '\'', 'b'] = .ok tokens) ∧
      (∃ markup, (Registry.builtin.register g).highlight ['\''] "Quotes" .github = .ok markup) ∧
      (∃ markup, Registry.builtin.highlight ['\''] "JavaScript" .github = .ok markup) ∧
      broken.tokenize ['\'', 'b'] = .error (.missingState "broken" "in") ∧
      ∃ tokens, broken.tokenize ['\''] = .ok tokens := by
  intro quote g broken
  have hclosed : g.Closed := Grammar.closed_of_states (by decide) (by decide)
  have hfind : (Registry.builtin.register g).find? "Quotes" = some g := by
    have hanswers : g.answersTo "Quotes" = true := by decide +kernel
    exact List.find?_cons_of_pos hanswers
  have hjavascript : Grammar.javascript.answersTo "JavaScript" = true := by decide +kernel
  -- the first step of the broken grammar takes the quote
  have hstep : ∀ rest, stepOf "root" ('\'' :: rest) [quote.switch "in"] = ⟨.string, 1, "in"⟩ := by
    intro rest
    have hlength : (quote.switch "in").length? ('\'' :: rest) = some 1 := rfl
    rw [stepOf, hlength]
    rfl
  obtain ⟨hg, -, hbuiltin, -⟩ := tokenize_fails_iff_missing g ['\'']
  refine ⟨hclosed, ((tokenize_fails_iff_missing g _).1 hclosed).1, (hg hclosed).2 _ _ _ hfind,
    hbuiltin _ _ (.inl hjavascript), ?_, ?_⟩
  · refine ((tokenize_fails_iff_missing broken _).2.2.2 _).2 ?_
    exact ⟨_, "in", ['b'], .step .start rfl (hstep ['b']), rfl, by simp, rfl, rfl⟩
  · refine ⟨[⟨.string, ['\'']⟩], tokenize_eq_ok.2 ⟨[⟨.string, ['\'']⟩], ?_, rfl⟩⟩
    rw [show rootState = "root" from rfl, scan_step (show broken.rules? "root" = _ from rfl)
      (hstep [])]
    show Except.map _ (broken.scan "in" []) = _
    rw [scan_nil]
    rfl

end LiterateSite.Highlight
