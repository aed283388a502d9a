import LiterateSite.Highlight.Languages
import LiterateSite.Proofs.Highlight.Run

/-!
# The rules that can take a text

Which rules of a state matter at a place is decided by the next character.

* `Rule.word?_of_past`, `Rule.word?_of_none`: what a rule takes, from where its pattern ends.
* `Rule.spells_of_word?`: what a rule takes is a word that its pattern can match.
* `choice?_filter`: **only rules that can begin with the next character matter** to the choice.
* `run_of_rules`: a state that no rule leaves has a run for every text.
* `Run.kind_of_head`, `tokenize_cons`: the first token of a text is its first step if the next step
  is of another kind, which the next character may tell.
-/

namespace LiterateSite.Highlight

open CharSet Pattern
open Grammar (rootState)

variable {g : Grammar} {rule : Rule} {rules : List Rule} {state : String} {t : Token}
variable {text word rest : List Char} {steps later : List Token} {p : Pattern} {c : Char}

theorem contains_inLine (c : Char) : inLine.contains c = decide (c ≠ '\n') := by
  show (!(single '\n').contains c) = _
  rw [contains_single, decide_not]

/-! ## One rule -/

/-- A rule takes the word up to where its pattern ends. -/
theorem Rule.word?_of_past (hr : rule.pattern = .seq (.look .textStart) p)
    (hp : p.matchAt? (.start text) = some ((Cursor.start text).past word))
    (ht : text = word ++ rest) (hw : word ≠ []) : rule.word? text = some word := by
  have hc : ((Cursor.start text).past word).consumed = word.length :=
    (Cursor.past_consumed _ _).trans (Nat.zero_add _)
  unfold Rule.word?
  rw [hr, find?_anchored, hp]
  show (if _ then none else some _) = _
  rw [hc, if_neg (mt List.eq_nil_of_length_eq_zero hw), ht, List.take_left]

/-- A rule takes nothing where its pattern does not match. -/
theorem Rule.word?_of_none (hr : rule.pattern = .seq (.look .textStart) p)
    (hp : p.matchAt? (.start text) = none) : rule.word? text = none := by
  unfold Rule.word?
  rw [hr, find?_anchored, hp]
  rfl

/-- **What a rule takes** is a word that its pattern leads past and can match. -/
theorem Rule.spells_of_word? (h : rule.word? text = some word) :
    rule.pattern.Leads (.start text) ((Cursor.start text).past word) ∧
      rule.pattern.Spells (.start text) ((Cursor.start text).past word) word := by
  obtain ⟨-, stop, hf, ht, hc⟩ := Rule.of_word? h
  have hl : rule.pattern.Leads (.start text) stop := leads_of_find? hf rfl
  obtain ⟨taken, hs⟩ := hl.spells
  obtain ⟨more, hm⟩ := hs.follows
  have hm : text = taken ++ more := hm
  have hlen : taken.length = word.length := by
    rw [← hc, hs.stop, Cursor.past_consumed]
    exact (Nat.zero_add _).symm
  obtain rfl : taken = word := (List.append_inj (hm.symm.trans ht) hlen).1
  rw [← hs.stop]
  exact ⟨hl, hs⟩

/-- A rule takes nothing from a text that none of its matches begins like. -/
theorem Rule.word?_of_begins (h : rule.pattern.begins c = false) (rest : List Char) :
    rule.word? (c :: rest) = none := by
  cases hw : rule.word? (c :: rest) with
  | none => rfl
  | some word =>
    obtain ⟨hne, stop, -, ht, -⟩ := Rule.of_word? hw
    obtain ⟨d, word, rfl⟩ := List.exists_cons_of_ne_nil hne
    obtain rfl := (List.cons.inj ht).1
    exact absurd ((Rule.spells_of_word? hw).2.first c rfl) (by rw [h]; exact Bool.false_ne_true)

/-! ## The choice among rules -/

/-- **Only rules that can begin with the next character** matter. -/
theorem choice?_filter (rules : List Rule) (c : Char) (rest : List Char) :
    choice? rules (c :: rest) = choice? (rules.filter (·.pattern.begins c)) (c :: rest) := by
  induction rules with
  | nil => rfl
  | cons rule rules ih =>
    rw [choice?_cons, List.filter_cons]
    split
    · rw [choice?_cons, ih]
    · rename_i hb
      rw [Rule.word?_of_begins (Bool.eq_false_iff.2 hb), ih]
      rfl

theorem choice?_append (h : ∀ rule ∈ rules, rule.pattern.begins c = false) (others : List Rule)
    (rest : List Char) : choice? (rules ++ others) (c :: rest) = choice? others (c :: rest) := by
  have hnone : rules.filter (·.pattern.begins c) = [] :=
    List.filter_eq_nil_iff.2 fun rule hr => by rw [h rule hr]; exact Bool.false_ne_true
  rw [choice?_filter, List.filter_append, hnone, List.nil_append, ← choice?_filter]

/-- The chosen rule can begin with the next character. -/
theorem begins_of_choice? (h : choice? rules (c :: rest) = some (rule, word)) :
    rule ∈ rules ∧ rule.pattern.begins c = true := by
  obtain ⟨hw, earlier, later, rfl, -⟩ := of_choice? h
  refine ⟨List.mem_append_right _ List.mem_cons_self, ?_⟩
  cases hb : rule.pattern.begins c with
  | true => rfl
  | false => rw [Rule.word?_of_begins hb] at hw; cases hw

/-! ## Runs -/

/-- **A state that no rule leaves** has a run for every text. -/
theorem run_of_rules (hs : g.rules? state = some rules) (hn : ∀ rule ∈ rules, rule.next = none)
    (text : List Char) : ∃ steps, Run g state text steps := by
  -- on the length of the text, of which every step takes at least one character
  induction text using (measure List.length).wf.induction with
  | _ text ih =>
    cases text with
    | nil => exact ⟨[], .done state⟩
    | cons c cs =>
      cases hc : choice? rules (c :: cs) with
      | none =>
        obtain ⟨steps, hrun⟩ := ih cs (Nat.lt_succ_self _)
        exact ⟨_, .plain hs hc hrun⟩
      | some chosen =>
        obtain ⟨rule, word⟩ := chosen
        obtain ⟨hne, stop, -, ht, -⟩ := Rule.of_word? (of_choice? hc).1
        have hshort : stop.rest.length < (c :: cs).length := by
          have hpos := List.length_pos_iff.2 hne
          rw [ht, List.length_append]
          omega
        obtain ⟨steps, hrun⟩ := ih stop.rest hshort
        have hstate : rule.next.getD state = state := by
          rw [hn rule (begins_of_choice? hc).1]
          rfl
        exact ⟨_, .rule hs hc ht (hstate ▸ hrun)⟩

/-- The first step of a run is plain text or comes from a rule that can begin with the first
character. -/
theorem Run.kind_of_head (hs : g.rules? state = some rules)
    (h : Run g state (c :: rest) (t :: later)) :
    t.kind = .text ∨ ∃ rule ∈ rules, rule.kind = t.kind ∧ rule.pattern.begins c = true := by
  cases h with
  | rule hs' hc ht later =>
    cases hs.symm.trans hs'
    exact Or.inr ⟨_, (begins_of_choice? hc).1, rfl, (begins_of_choice? hc).2⟩
  | plain => exact Or.inl rfl

/-- Merging does not change the kind of the first token. -/
theorem head?_coalesce_kind (steps : List Token) :
    (coalesce steps).head?.map Token.kind = steps.head?.map Token.kind := by
  cases steps with
  | nil => rfl
  | cons t rest =>
    show (t.attach (coalesce rest)).head?.map Token.kind = some t.kind
    cases coalesce rest with
    | nil => rfl
    | cons u rest =>
      by_cases hk : t.kind = u.kind
      · rw [attach_same hk]
        exact congrArg some hk.symm
      · rw [attach_other hk]
        rfl

/-- A step before one of another kind is a token of its own. -/
theorem coalesce_cons (h : ∀ u ∈ steps.head?, u.kind ≠ t.kind) :
    coalesce (t :: steps) = t :: coalesce steps := by
  have hgroup : coalesce ([t] ++ steps) = ⟨t.kind, textOf [t]⟩ :: coalesce steps :=
    coalesce_group (fun u hu => by rw [List.mem_singleton.1 hu]) (List.cons_ne_nil _ _)
      fun u hu hk => by
      have hmap := head?_coalesce_kind steps
      rw [Option.mem_def.1 hu] at hmap
      obtain ⟨v, hv, he⟩ := Option.map_eq_some_iff.1 hmap.symm
      exact h v hv (he.trans hk)
  rw [textOf_cons, textOf_nil, List.append_nil] at hgroup
  exact hgroup

/-- **The first token of a text** is its first step, if the next one is of another kind. -/
theorem tokenize_cons (hg : g.Anchored) (h : Run g rootState text (t :: steps))
    (hk : ∀ u ∈ steps.head?, u.kind ≠ t.kind) :
    g.tokenize text = .ok (t :: coalesce steps) :=
  tokenize_eq_ok.2 ⟨_, h.scan hg, (coalesce_cons hk).symm⟩

/-! ## JavaScript -/

theorem rules?_javascript : Grammar.javascript.rules? rootState = some javascriptRules := rfl

theorem javascript_anchored : Grammar.javascript.Anchored :=
  Grammar.anchored_of_isAnchored (by decide)

/-- Every text has a run: the grammar stays in one state. -/
theorem run_javascript (text : List Char) : ∃ steps, Run .javascript rootState text steps :=
  run_of_rules rules?_javascript (by decide) text

end LiterateSite.Highlight
