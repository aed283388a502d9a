import LiterateSite.Proofs.Highlight.Rules
import LiterateSite.Proofs.Pattern.Repeat

/-!
# String literals

* `Quotable`: what may stand between two quote marks.
* `forced_quotable`: at each place inside there is one way to go on, and none at the closing mark.
* `choice?_quoted`: the rule of a quote mark takes the literal up to the mark that closes it.
* `tokenize_quoted`: **a string literal is one token**, whatever stands in it and after it.
-/

namespace LiterateSite.Highlight

open CharSet Pattern
open Grammar (rootState)

variable {quote c : Char} {plain escaped : CharSet} {content rest : List Char} {cur : Cursor}

/-- The marks that strings stand between; only between the last two a line may end. -/
def quoteMarks : List Char := ['"', '\'', '\x60']

/-- A line may end between two of these marks. -/
def spansLines (quote : Char) : Bool := quote == '\x60'

/-- What may stand between two quote marks: characters other than the mark and the backslash, and
pairs of a backslash and any character, without line ends unless the mark lets lines end. -/
inductive Quotable (quote : Char) : List Char → Prop
  | nil : Quotable quote []
  | plain {c : Char} {rest : List Char} (hq : c ≠ quote) (hb : c ≠ '\\')
      (hn : spansLines quote = false → c ≠ '\n') (later : Quotable quote rest) :
      Quotable quote (c :: rest)
  | escaped {c : Char} {rest : List Char} (hn : spansLines quote = false → c ≠ '\n')
      (later : Quotable quote rest) : Quotable quote ('\\' :: c :: rest)

/-- What the pattern of a string repeats. -/
def quotedItem (plain escaped : CharSet) : Pattern :=
  alt (one plain) (seq (one (single '\\')) (one escaped))

/-- The sets are those of the quote mark. -/
structure Quotes (quote : Char) (plain escaped : CharSet) : Prop where
  mark : quote ≠ '\\'
  plain_iff : ∀ c, plain.contains c = true ↔
    c ≠ quote ∧ c ≠ '\\' ∧ (spansLines quote = false → c ≠ '\n')
  escaped_iff : ∀ c, escaped.contains c = true ↔ (spansLines quote = false → c ≠ '\n')

/-- Before a plain character there is one way to go on. -/
theorem ends_quotedItem_plain (hp : plain.contains c = true) (hb : c ≠ '\\')
    (hr : cur.rest = c :: rest) : (quotedItem plain escaped).ends cur = [cur.advance c rest] := by
  show Cursor.distinct ((one plain).ends cur ++
    Cursor.distinct (((one (single '\\')).ends cur).flatMap (one escaped).ends)) = _
  rw [ends_one_cons hr, if_pos hp, ends_single_cons hr, if_neg hb]
  rfl

/-- Before a backslash, too. -/
theorem ends_quotedItem_escaped (hp : plain.contains '\\' = false) (he : escaped.contains c = true)
    (hr : cur.rest = '\\' :: c :: rest) :
    (quotedItem plain escaped).ends cur = [(cur.advance '\\' (c :: rest)).advance c rest] := by
  show Cursor.distinct ((one plain).ends cur ++
    Cursor.distinct (((one (single '\\')).ends cur).flatMap (one escaped).ends)) = _
  rw [ends_one_cons hr, if_neg (by rw [hp]; exact Bool.false_ne_true), ends_single_cons hr,
    if_pos rfl, List.flatMap_singleton,
    ends_one_cons (show (cur.advance '\\' (c :: rest)).rest = c :: rest from rfl), if_pos he]
  rfl

/-- Before the quote mark there is none. -/
theorem ends_quotedItem_mark (hq : Quotes quote plain escaped) (hr : cur.rest = quote :: rest) :
    (quotedItem plain escaped).ends cur = [] := by
  show Cursor.distinct ((one plain).ends cur ++
    Cursor.distinct (((one (single '\\')).ends cur).flatMap (one escaped).ends)) = _
  have hplain : plain.contains quote ≠ true := fun h => ((hq.plain_iff quote).1 h).1 rfl
  rw [ends_one_cons hr, if_neg hplain, ends_single_cons hr, if_neg hq.mark]
  rfl

/-- **At each place inside** there is one way to go on, and none at the closing mark. -/
theorem forced_quotable (hq : Quotes quote plain escaped) (h : Quotable quote content)
    (hr : cur.rest = content ++ quote :: rest) :
    (quotedItem plain escaped).Forced cur (cur.past content) := by
  induction h generalizing cur with
  | nil => exact .stop (ends_quotedItem_mark hq hr)
  | @plain c content hc hb hn later ih =>
    rw [Cursor.past_cons hr]
    exact .step (ends_quotedItem_plain ((hq.plain_iff c).2 ⟨hc, hb, hn⟩) hb hr)
      (Nat.lt_succ_self _) (ih rfl)
  | @escaped c content hn later ih =>
    have hslash : plain.contains '\\' = false :=
      Bool.eq_false_iff.2 fun h => ((hq.plain_iff '\\').1 h).2.1 rfl
    rw [Cursor.past_cons hr, Cursor.past_cons rfl]
    exact .step (ends_quotedItem_escaped hslash ((hq.escaped_iff c).2 hn) hr)
      (Nat.lt_of_lt_of_le (Nat.lt_succ_self _) (Nat.le_succ _)) (ih rfl)

theorem matchAt?_quotedText (hq : Quotes quote plain escaped) (h : Quotable quote content)
    (hr : cur.rest = quote :: (content ++ quote :: rest)) :
    (quotedText quote plain escaped).matchAt? cur =
      some (cur.past (quote :: (content ++ [quote]))) := by
  let inside := cur.advance quote (content ++ quote :: rest)
  have hopen : (one (single quote)).matchAt? cur = some inside := by
    unfold matchAt?
    rw [ends_single_cons hr, if_pos rfl]
    rfl
  have hinside : (star true (quotedItem plain escaped)).matchAt? inside =
      some (inside.past content) :=
    matchAt?_star_forced (fun _ h => Pattern.noConfusion h) (forced_quotable hq h rfl)
  have hclose : (one (single quote)).matchAt? (inside.past content) =
      some ((inside.past content).past [quote]) := by
    have hrest : (inside.past content).rest = quote :: rest := Cursor.past_rest rfl
    unfold matchAt?
    rw [ends_single_cons hrest, if_pos rfl, Cursor.past_cons hrest]
    rfl
  rw [Cursor.past_cons hr, Cursor.past_append]
  exact matchAt?_seq hopen (matchAt?_seq hinside hclose)

/-- The rule of a quote mark. -/
def quotedRule (quote : Char) (plain escaped : CharSet) : Rule :=
  .anchored (quotedText quote plain escaped) .string

/-- The sets of each quote mark, and its rule as the only one that can begin with it. -/
theorem quotes_of_mem (h : quote ∈ quoteMarks) : ∃ plain escaped, Quotes quote plain escaped ∧
    javascriptRules.filter (·.pattern.begins quote) = [quotedRule quote plain escaped] := by
  have hcompl (s : String) (c : Char) :
      (compl (oneOf s)).contains c = true ↔ c ∉ s.toList := by
    show (!(oneOf s).contains c) = true ↔ _
    rw [contains_oneOf, Bool.not_eq_true', decide_eq_false_iff_not]
  rcases List.mem_cons.1 h with rfl | h
  · refine ⟨compl (oneOf "\"\\\n"), inLine, ⟨by decide, fun c => ?_, fun c => ?_⟩, by rfl⟩
    · rw [hcompl]
      simp [spansLines]
    · simp [contains_inLine, spansLines]
  rcases List.mem_cons.1 h with rfl | h
  · refine ⟨compl (oneOf "'\\\n"), inLine, ⟨by decide, fun c => ?_, fun c => ?_⟩, by rfl⟩
    · rw [hcompl]
      simp [spansLines]
    · simp [contains_inLine, spansLines]
  · obtain rfl := List.mem_singleton.1 h
    refine ⟨compl (oneOf "\x60\\"), anything, ⟨by decide, fun c => ?_, fun c => ?_⟩, by rfl⟩
    · rw [hcompl]
      simp [spansLines]
    · simp [spansLines, CharSet.contains]

/-- **The rule of the quote mark** takes the literal. -/
theorem choice?_quoted (hq : quote ∈ quoteMarks) (h : Quotable quote content) (rest : List Char) :
    ∃ rule, choice? javascriptRules (quote :: (content ++ quote :: rest)) =
      some (rule, quote :: (content ++ [quote])) ∧ rule.kind = .string ∧ rule.next = none := by
  obtain ⟨plain, escaped, hquotes, hfilter⟩ := quotes_of_mem hq
  refine ⟨quotedRule quote plain escaped, ?_, rfl, rfl⟩
  have hword : (quotedRule quote plain escaped).word? (quote :: (content ++ quote :: rest)) =
      some (quote :: (content ++ [quote])) :=
    Rule.word?_of_past rfl (matchAt?_quotedText hquotes h rfl)
      (show _ = quote :: (content ++ [quote]) ++ rest by simp) (List.cons_ne_nil _ _)
  rw [choice?_filter, hfilter, choice?_one, hword]
  rfl

theorem begins_quotedRule (quote c : Char) (plain escaped : CharSet) :
    (quotedRule quote plain escaped).pattern.begins c = decide (c = quote) := by
  show (false || (true && ((single quote).contains c || (false && _)))) = _
  rw [Bool.false_and, Bool.or_false, Bool.true_and, Bool.false_or, contains_single]

/-- Only a quote mark begins a string. -/
theorem mark_of_begins {rule : Rule} (h : rule ∈ javascriptRules) (hk : rule.kind = .string)
    (hb : rule.pattern.begins c = true) : c ∈ quoteMarks := by
  have hrules : javascriptRules.filter (·.kind == .string) =
      [quotedRule '\x60' (compl (oneOf "\x60\\")) anything,
        quotedRule '"' (compl (oneOf "\"\\\n")) inLine,
        quotedRule '\'' (compl (oneOf "'\\\n")) inLine] := rfl
  have hm : rule ∈ javascriptRules.filter (·.kind == .string) :=
    List.mem_filter.2 ⟨h, beq_iff_eq.2 hk⟩
  rw [hrules] at hm
  rcases List.mem_cons.1 hm with rfl | hm
  · rw [begins_quotedRule, decide_eq_true_iff] at hb
    exact hb ▸ by decide
  rcases List.mem_cons.1 hm with rfl | hm
  · rw [begins_quotedRule, decide_eq_true_iff] at hb
    exact hb ▸ by decide
  · rw [List.mem_singleton.1 hm, begins_quotedRule, decide_eq_true_iff] at hb
    exact hb ▸ by decide

/-- **A string literal is one token**: it begins with a quote mark and ends with the next one that
no backslash takes with it, whatever stands in it and after it. A quote mark right after it is left
out, since the string that it may begin would be merged with this one. -/
theorem tokenize_quoted (hq : quote ∈ quoteMarks) (h : Quotable quote content)
    (hr : ∀ c ∈ rest.head?, c ∉ quoteMarks) :
    ∃ later, Grammar.javascript.tokenize (quote :: content ++ quote :: rest) =
      .ok (⟨.string, quote :: content ++ [quote]⟩ :: later) := by
  obtain ⟨rule, hc, hk, hn⟩ := choice?_quoted hq h rest
  obtain ⟨steps, hrun⟩ := run_javascript rest
  have hfirst : Run .javascript rootState (quote :: (content ++ quote :: rest))
      (⟨rule.kind, quote :: (content ++ [quote])⟩ :: steps) :=
    .rule rules?_javascript hc (show _ = quote :: (content ++ [quote]) ++ rest by simp)
      (by rw [hn]; exact hrun)
  rw [hk] at hfirst
  refine ⟨_, tokenize_cons javascript_anchored hfirst fun u hu hku => ?_⟩
  obtain ⟨steps, rfl⟩ := List.head?_eq_some_iff.1 hu
  cases rest with
  | nil => cases hrun.length_le
  | cons c rest =>
    rcases hrun.kind_of_head rules?_javascript with ht | ⟨other, hm, hko, hb⟩
    · rw [ht] at hku
      cases hku
    · exact hr c rfl (mark_of_begins hm (hko.trans hku) hb)

/-- A comment opener, a keyword, another quote mark and the same one after a backslash. -/
theorem tokenize_quoted_marks :
    Quotable '"' "//if'\\\"".toList ∧ '+' ∉ quoteMarks ∧
      ∃ later, Grammar.javascript.tokenize "\"//if'\\\"\"+b".toList =
        .ok (⟨.string, "\"//if'\\\"\"".toList⟩ :: later) := by
  have h : Quotable '"' "//if'\\\"".toList :=
    .plain (by decide) (by decide) (by decide) <| .plain (by decide) (by decide) (by decide) <|
      .plain (by decide) (by decide) (by decide) <| .plain (by decide) (by decide) (by decide) <|
      .plain (by decide) (by decide) (by decide) <| .escaped (by decide) .nil
  refine ⟨h, by decide, tokenize_quoted (by decide) h fun c hc => ?_⟩
  obtain rfl : '+' = c := Option.some.inj hc
  decide

end LiterateSite.Highlight
