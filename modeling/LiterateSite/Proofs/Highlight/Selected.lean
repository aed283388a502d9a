import LiterateSite.Proofs.Highlight.Run
import LiterateSite.Proofs.Pattern.Enclosed

/-!
# Rules that are selected

Where the match lies that a selected rule takes, for every grammar.

* `Grammar.Visits`: a place that a text is tokenized at, with the state and the tokens before it.
* `Selects`: the rule of a state that is taken at a place, with its match.
* `Selects.visits`: the token of a selected rule holds all up to the end of its match.
* `selected_at_position`: **a pattern that can be read on its own is matched at the place itself**,
  and nothing else is in the token.
-/

namespace LiterateSite.Highlight

open Pattern
open Grammar (rootState)

variable {g : Grammar} {rule : Rule} {rules : List Rule} {state : String} {m : Match}
variable {text rest : List Char} {steps done tokens : List Token}

/-- **A place that the text is tokenized at**: the tokens before it, one for each step, the state
there and the text left. -/
inductive Grammar.Visits (g : Grammar) (text : List Char) : List Token → String → List Char → Prop
  | start : g.Visits text [] rootState text
  | step {done : List Token} {state : String} {c : Char} {rest : List Char} {rules : List Rule}
      {step : Step} (visit : g.Visits text done state (c :: rest))
      (hs : g.rules? state = some rules) (hstep : stepOf state (c :: rest) rules = step) :
      g.Visits text (done ++ [⟨step.kind, (c :: rest).take step.length⟩]) step.state
        ((c :: rest).drop step.length)

/-- The rule is taken in the state: it has the match `m`, which is not empty, and no rule before it
has one. -/
structure Selects (g : Grammar) (state : String) (text : List Char) (rule : Rule) (m : Match) :
    Prop where
  first : ∃ earlier later, g.rules? state = some (earlier ++ rule :: later) ∧
    ∀ r ∈ earlier, r.length? text = none
  found : rule.pattern.find? text = some m
  inhabited : m.isEmpty = false

/-! ## Places -/

/-- The tokens before a place are the text before it. -/
theorem Grammar.Visits.covers (h : g.Visits text done state rest) : text = textOf done ++ rest := by
  induction h with
  | start => rfl
  | step visit hs hstep ih =>
    rw [ih, textOf_append, List.append_assoc, textOf_cons, textOf_nil, List.append_nil,
      List.take_append_drop]

/-- A scan goes on from a place it has come to. -/
theorem Grammar.Visits.of_scan (h : g.Visits text done state rest) :
    ∀ steps, g.scan state rest = .ok steps → ∃ last, g.Visits text (done ++ steps) last [] := by
  -- on the text left, as the scan itself
  induction hlen : rest.length using Nat.strong_induction_on generalizing done state rest with
  | _ n ih =>
    intro steps hscan
    cases rest with
    | nil =>
      rw [scan_nil] at hscan
      cases hscan
      exact ⟨state, (List.append_nil done).symm ▸ h⟩
    | cons c rest =>
      obtain ⟨rules, later, hs, hl, rfl⟩ := scan_cons hscan
      have hshort : ((c :: rest).drop (stepOf state (c :: rest) rules).length).length < n := by
        have := stepOf_length_pos state (c :: rest) rules
        rw [List.length_drop, ← hlen, List.length_cons]
        omega
      obtain ⟨last, hlast⟩ := ih _ hshort (h.step hs rfl) rfl later hl
      exact ⟨last, by rwa [List.append_assoc] at hlast⟩

/-- **The tokens of a text** are those of the places it is tokenized at, with neighbours merged. -/
theorem visits_of_tokenize (h : g.tokenize text = .ok tokens) :
    ∃ steps last, g.Visits text steps last [] ∧ tokens = coalesce steps := by
  obtain ⟨steps, hscan, rfl⟩ := tokenize_eq_ok.1 h
  obtain ⟨last, hlast⟩ := Grammar.Visits.start.of_scan steps hscan
  exact ⟨steps, last, hlast, rfl⟩

/-! ## Selected rules -/

/-- What a selected rule takes is not empty. -/
theorem Selects.pos (h : Selects g state text rule m) : 0 < m.stop.consumed := by
  obtain ⟨skipped, word, -, hstart, hstop⟩ := of_find? h.found
  have hne : m.start ≠ m.stop.consumed := by
    have := h.inhabited
    unfold Match.isEmpty at this
    simpa using this
  omega

theorem Selects.length?_eq (h : Selects g state text rule m) :
    rule.length? text = some m.stop.consumed := by
  unfold Rule.length?
  rw [h.found]
  exact if_neg (by rw [h.inhabited]; exact Bool.false_ne_true)

/-- The step of a state is that of the selected rule. -/
theorem Selects.stepOf_eq (h : Selects g state text rule m) : ∃ rules, g.rules? state = some rules ∧
    stepOf state text rules = ⟨rule.kind, m.stop.consumed, rule.next.getD state⟩ := by
  obtain ⟨earlier, later, hs, he⟩ := h.first
  refine ⟨_, hs, ?_⟩
  clear hs
  induction earlier with
  | nil =>
    obtain ⟨n, hn⟩ := Nat.exists_eq_succ_of_ne_zero (Nat.ne_of_gt h.pos)
    rw [List.nil_append, stepOf, h.length?_eq, hn]
  | cons r earlier ih =>
    rw [List.cons_append, stepOf, he r List.mem_cons_self]
    exact ih fun r hr => he r (List.mem_cons_of_mem _ hr)

/-- **The token of a selected rule** holds the text up to the end of its match. -/
theorem Selects.visits (h : Selects g state rest rule m) (hv : g.Visits text done state rest) :
    ∃ word after, rest = word ++ after ∧ m.stop.consumed = word.length ∧
      g.Visits text (done ++ [⟨rule.kind, word⟩]) (rule.next.getD state) after := by
  obtain ⟨skipped, taken, hrest, hstart, hstop⟩ := of_find? h.found
  have hlen : m.stop.consumed = (skipped ++ taken).length := by
    rw [hstop, hstart, List.length_append]
  refine ⟨skipped ++ taken, m.stop.rest, hrest, hlen, ?_⟩
  obtain ⟨rules, hs, hstep⟩ := h.stepOf_eq
  obtain ⟨c, cs, rfl⟩ : ∃ c cs, rest = c :: cs := by
    refine List.exists_cons_of_ne_nil fun hn => ?_
    have hpos := h.pos
    rw [hn] at hrest
    rw [hlen, (List.append_eq_nil_iff.1 hrest.symm).1] at hpos
    exact Nat.lt_irrefl 0 hpos
  have hnext := hv.step hs hstep
  dsimp only at hnext
  rwa [hlen, hrest, List.take_left, List.drop_left] at hnext

/-- A match that begins at the place is the token. -/
theorem Selects.stop_eq {word after : List Char} (h : Selects g state rest rule m)
    (hstart : m.start = 0) (hrest : rest = word ++ after) (hlen : m.stop.consumed = word.length) :
    m.stop = (Cursor.start rest).past word := by
  obtain ⟨taken, hs⟩ := (leads_of_find? h.found hstart).spells
  obtain ⟨more, hm⟩ := hs.follows
  have hm : rest = taken ++ more := hm
  have htaken : taken.length = word.length := by
    rw [← hlen, hs.stop, Cursor.past_consumed]
    exact (Nat.zero_add _).symm
  rw [← (List.append_inj (hm.symm.trans hrest) htaken).1]
  exact hs.stop

/-! ## Written rules -/

theorem Rule.of_read {pattern : String} {kind : TokenKind} (h : Rule.read pattern kind = .ok rule) :
    Pattern.read? ("^(?:".toList ++ pattern.toList ++ [')']) = some rule.pattern ∧
      rule.kind = kind := by
  unfold Rule.read at h
  split at h
  · rename_i p hp
    cases h
    exact ⟨hp, rfl⟩
  · cases h

/-- **A written rule is matched at the place itself.** A rule is written as a pattern, and may
switch the state. Wherever it is selected, its token is the text up to the end of the match. The
match begins at the place if the rule is bound to it, and so it does if the pattern can be read on
its own: then the token is what the pattern itself matches there. -/
theorem selected_at_position {pattern : String} {kind : TokenKind}
    (hread : Rule.read pattern kind = .ok { rule with next := none })
    (hv : g.Visits text done state rest) (hsel : Selects g state rest rule m) :
    ∃ word after, rest = word ++ after ∧ text = textOf done ++ word ++ after ∧
      m.stop.consumed = word.length ∧
      g.Visits text (done ++ [⟨kind, word⟩]) (rule.next.getD state) after ∧
      (rule.pattern.isAnchored = true → m.start = 0 ∧ m.stop = (Cursor.start rest).past word) ∧
      ∀ p, Pattern.read? pattern.toList = some p →
        m.start = 0 ∧ m.stop = (Cursor.start rest).past word ∧
          p.matchAt? (.start rest) = some m.stop ∧ p.Leads (.start rest) m.stop := by
  obtain ⟨hpattern, hkind⟩ := Rule.of_read hread
  obtain ⟨word, after, hrest, hlen, hvisit⟩ := hsel.visits hv
  have htext : text = textOf done ++ word ++ after := by
    rw [List.append_assoc, ← hrest]
    exact hv.covers
  refine ⟨word, after, hrest, htext, hlen, hkind ▸ hvisit, fun hanchored => ?_, fun p hp => ?_⟩
  · have hstart := start_of_isAnchored hanchored hsel.found
    exact ⟨hstart, hsel.stop_eq hstart hrest hlen⟩
  · have hfound := hsel.found
    rw [show rule.pattern = seq (look .textStart) p from read_enclosed hp hpattern,
      find?_anchored] at hfound
    obtain ⟨stop, hstop, rfl⟩ := Option.map_eq_some_iff.1 hfound
    exact ⟨rfl, hsel.stop_eq rfl hrest hlen, hstop,
      leads_of_mem_ends p _ stop (List.mem_of_mem_head? hstop)⟩

/-- The second step of a text, by the second rule of a state that the rule leaves. -/
theorem selected_at_position_second :
    ∃ rule m, Rule.read "a|b" .keyword = .ok { rule with next := none } ∧
      let g : Grammar :=
        { name := "g", states := [("root", [.anchored (one (.single 'b')) .string, rule])] }
      g.Visits ['x', 'a', 'b'] [⟨.text, ['x']⟩] "root" ['a', 'b'] ∧
      Selects g "root" ['a', 'b'] rule m ∧
      ∃ p, Pattern.read? "a|b".toList = some p ∧ p.matchAt? (.start ['a', 'b']) = some m.stop ∧
        g.Visits ['x', 'a', 'b'] [⟨.text, ['x']⟩, ⟨.keyword, ['a']⟩] "other" ['b'] := by
  have hfinds : (Pattern.read? ("^(?:".toList ++ "a|b".toList ++ [')'])).map
      (fun p => (p.find? ['x', 'a', 'b'], p.find? ['a', 'b'])) =
        some (none, some ⟨0, ⟨some 'a', 1, ['b']⟩⟩) := by
    decide +kernel
  obtain ⟨p, hp, hfound⟩ := Option.map_eq_some_iff.1 hfinds
  obtain ⟨hx, ha⟩ := Prod.mk.inj hfound
  obtain ⟨q, hq⟩ : ∃ q, Pattern.read? "a|b".toList = some q :=
    Option.isSome_iff_exists.1 (by decide +kernel)
  let rule : Rule := ⟨p, .keyword, some "other"⟩
  have hread : Rule.read "a|b" .keyword = .ok { rule with next := none } := by
    unfold Rule.read
    rw [hp]
  refine ⟨rule, ⟨0, ⟨some 'a', 1, ['b']⟩⟩, hread, ?_⟩
  intro g
  have hplain : stepOf "root" ['x', 'a', 'b'] [.anchored (one (.single 'b')) .string, rule] =
      ⟨.text, 1, "root"⟩ := by
    have hfirst : (Rule.anchored (one (.single 'b')) .string).length? ['x', 'a', 'b'] = none := by
      decide +kernel
    have hsecond : rule.length? ['x', 'a', 'b'] = none := by
      unfold Rule.length?
      rw [show rule.pattern.find? ['x', 'a', 'b'] = none from hx]
    simp only [stepOf, hfirst, hsecond]
  have hv : g.Visits ['x', 'a', 'b'] [⟨.text, ['x']⟩] "root" ['a', 'b'] :=
    .step .start rfl hplain
  have hsel : Selects g "root" ['a', 'b'] rule ⟨0, ⟨some 'a', 1, ['b']⟩⟩ := by
    refine ⟨⟨[.anchored (one (.single 'b')) .string], [], rfl, fun r hr => ?_⟩, ha, rfl⟩
    rw [List.mem_singleton.1 hr]
    decide +kernel
  obtain ⟨word, after, hrest, -, hlen, hvisit, -, hown⟩ := selected_at_position hread hv hsel
  obtain ⟨rfl, rfl⟩ := List.append_inj (show ['a'] ++ ['b'] = word ++ after from hrest) hlen
  exact ⟨hv, hsel, q, hq, (hown q hq).2.2.1, hvisit⟩

/-- **A match that begins later.** What binds a pattern is put around its text, and a bracket in the
text ends the group: the rule for `a)|(?:b` is selected at the `x` of `xb`, where its match begins
one character later, and the `x` gets its kind. -/
theorem selected_past_position :
    ∃ rule m, Rule.read "a)|(?:b" .keyword = .ok rule ∧
      let g : Grammar := { name := "g", states := [("root", [rule])] }
      g.Visits ['x', 'b'] [] "root" ['x', 'b'] ∧ Selects g "root" ['x', 'b'] rule m ∧ m.start = 1 ∧
      g.Visits ['x', 'b'] [⟨.keyword, ['x', 'b']⟩] "root" [] := by
  have hfinds : (Pattern.read? ("^(?:".toList ++ "a)|(?:b".toList ++ [')'])).map
      (·.find? ['x', 'b']) = some (some ⟨1, ⟨some 'b', 2, []⟩⟩) := by
    decide +kernel
  obtain ⟨p, hp, hfound⟩ := Option.map_eq_some_iff.1 hfinds
  refine ⟨⟨p, .keyword, none⟩, ⟨1, ⟨some 'b', 2, []⟩⟩, by unfold Rule.read; rw [hp], ?_⟩
  intro g
  have hsel : Selects g "root" ['x', 'b'] ⟨p, .keyword, none⟩ ⟨1, ⟨some 'b', 2, []⟩⟩ :=
    ⟨⟨[], [], rfl, fun r hr => absurd hr List.not_mem_nil⟩, hfound, rfl⟩
  obtain ⟨rules, hs, hstep⟩ := hsel.stepOf_eq
  exact ⟨.start, hsel, rfl, .step .start hs hstep⟩

end LiterateSite.Highlight
