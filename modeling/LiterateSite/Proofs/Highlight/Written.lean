import LiterateSite.Proofs.Highlight.Rules
import LiterateSite.Proofs.Highlight.Selected
import LiterateSite.Proofs.Pattern.Repeat

/-!
# Grammars as they are written

The rules of a grammar are written as texts. A text is read as a pattern that may be put together in
another way than the pattern of a rule and match the same: a repetition is read as no repetitions
before one or more, an optional part as no repetitions before at most one, and the sets of a class
are joined from the left. A text is refused if there is no room for its pattern, and for no other
reason if it is read to its end.

* `CharSet.plain`, `Pattern.plain`: one form for patterns that differ in such things only.
* `Cursor.unseen_unseen_append`: positions that are left out later may be left out before.
* `Pattern.find?_plain`: **the plain form matches the same** in every text.
* `Rule.Alike`, `Grammar.tokenize_of_alike`: rules that cannot be told apart.
* `RuleText`, `GrammarText`: rules and grammars as they are written, and how they are read.
* `GrammarText.Gives.read`: **a grammar is read as one that tokenizes every text** as a grammar does
  that its text gives.
* `javascript_as_written`, `transcript_as_written`: the built-in grammars.
-/

namespace LiterateSite

/-! ## Plain sets -/

namespace CharSet

/-- The sets that a set is put together from as a union. -/
def members : CharSet → List CharSet
  | nothing => []
  | union s t => s.members ++ t.members
  | s => [s]

/-- The union of the sets; a set and the rest of the characters are everything. -/
def join (sets : List CharSet) : CharSet :=
  if ∃ s ∈ sets, compl s ∈ sets then anything else unionAll sets

/-- The same set with the parts of its unions in a row. -/
def plain : CharSet → CharSet
  | compl s => compl s.plain
  | union s t => join (s.plain.members ++ t.plain.members)
  | s => s

theorem any_members (s : CharSet) (c : Char) : s.members.any (·.contains c) = s.contains c := by
  induction s with
  | nothing => rfl
  | union s t ihs iht =>
    rw [members, List.any_append, ihs, iht]
    rfl
  | _ => exact Bool.or_false _

theorem contains_join (sets : List CharSet) (c : Char) :
    (join sets).contains c = sets.any (·.contains c) := by
  unfold join
  split
  · rename_i h
    obtain ⟨s, hs, hrest⟩ := h
    refine (List.any_eq_true.2 ?_).symm
    cases hc : s.contains c with
    | true => exact ⟨s, hs, hc⟩
    | false => exact ⟨compl s, hrest, by show (!s.contains c) = true; rw [hc]; rfl⟩
  · exact contains_unionAll sets c

/-- **The plain form has the same characters.** -/
theorem contains_plain (s : CharSet) (c : Char) : s.plain.contains c = s.contains c := by
  induction s with
  | compl s ih => exact congrArg (!·) ih
  | union s t ihs iht =>
    show (join (s.plain.members ++ t.plain.members)).contains c = (s.contains c || t.contains c)
    rw [contains_join, List.any_append, any_members, any_members, ihs, iht]
  | _ => rfl

end CharSet

/-! ## Lists of positions -/

namespace Cursor

variable {s t : Std.HashSet Nat}

theorem distinct_eq_unseen (l : List Cursor) : distinct l = unseen ∅ l := by
  unfold distinct
  split
  · rfl
  · exact (if_neg (by simp)).symm
  · rfl

/-- Positions that are left out later may be left out before. -/
theorem unseen_unseen_append (h : ∀ n, t.contains n = true → s.contains n = true)
    (l more : List Cursor) : unseen s (unseen t l ++ more) = unseen s (l ++ more) := by
  induction l generalizing s t with
  | nil => rfl
  | cons cur l ih =>
    have hinsert (n : Nat) : (t.insert cur.consumed).contains n = true →
        cur.consumed = n ∨ s.contains n = true := by
      rw [Std.HashSet.contains_insert, Bool.or_eq_true_iff, beq_iff_eq]
      exact Or.imp_right (h n)
    by_cases hs : s.contains cur.consumed = true
    · have hskip : unseen s ((cur :: l) ++ more) = unseen s (l ++ more) := if_pos hs
      rw [hskip, unseen]
      split
      · exact ih h
      · rw [List.cons_append, unseen, if_pos hs]
        exact ih fun n hn => (hinsert n hn).elim (fun he => he ▸ hs) id
    · have ht : ¬t.contains cur.consumed = true := fun ht => hs (h _ ht)
      rw [unseen, if_neg ht, List.cons_append, List.cons_append, unseen, if_neg hs, unseen,
        if_neg hs]
      refine congrArg (cur :: ·) (ih fun n hn => ?_)
      rw [Std.HashSet.contains_insert, Bool.or_eq_true_iff, beq_iff_eq]
      exact hinsert n hn

theorem distinct_distinct_append (l more : List Cursor) :
    distinct (distinct l ++ more) = distinct (l ++ more) := by
  rw [distinct_eq_unseen, distinct_eq_unseen, distinct_eq_unseen]
  exact unseen_unseen_append (fun _ h => h) l more

@[simp] theorem distinct_distinct (l : List Cursor) : distinct (distinct l) = distinct l := by
  have h := distinct_distinct_append l []
  rwa [List.append_nil, List.append_nil] at h

variable {set set' : CharSet}

theorem after_congr (h : ∀ c, set.contains c = set'.contains c) (cur : Cursor) (rest : List Char)
    (before : List Cursor) : after set cur rest before = after set' cur rest before := by
  induction rest generalizing cur before with
  | nil => rfl
  | cons c rest ih =>
    unfold after
    rw [h c, ih]

end Cursor

open Cursor

/-! ## Plain patterns -/

namespace Pattern

variable {p q : Pattern} {cur : Cursor} {text : List Char}

/-- `p`, then `q`, without repetitions that are none, and with a word of two characters taken one
after the other. -/
def chain : Pattern → Pattern → Pattern
  | exactly 0 _, plus greedy (one s) => plus greedy (one s)
  | exactly 0 _, atMost true 1 q => alt q empty
  | seq (one s) (one t), q => seq (one s) (seq (one t) q)
  | p, q => seq p q

/-- The same pattern, put together in one way. -/
def plain : Pattern → Pattern
  | one s => one s.plain
  | seq p q => chain p.plain q.plain
  | alt p q => alt p.plain q.plain
  | plus greedy p => plus greedy p.plain
  | exactly n p => exactly n p.plain
  | atMost greedy n p => atMost greedy n p.plain
  | p => p

theorem ends_seq (p q : Pattern) (cur : Cursor) :
    (seq p q).ends cur = distinct ((p.ends cur).flatMap q.ends) := rfl

/-- No repetitions, and then something, is that. -/
theorem ends_seq_none (p q : Pattern) (cur : Cursor) :
    (seq (exactly 0 p) q).ends cur = distinct (q.ends cur) := by
  have hnone : (exactly 0 p).ends cur = [cur] := rfl
  rw [ends_seq, hnone, List.flatMap_singleton]

theorem distinct_ends_plus_one (greedy : Bool) (s : CharSet) (cur : Cursor) :
    distinct ((plus greedy (one s)).ends cur) = (plus greedy (one s)).ends cur := by
  have hends : (plus greedy (one s)).ends cur =
      if greedy then (nearest s cur cur.rest).reverse else nearest s cur cur.rest := by
    rw [ends_plus_one, after_eq, List.append_nil, List.reverse_reverse]
  have hpair : (nearest s cur cur.rest).Pairwise fun a b => a.consumed ≠ b.consumed :=
    pairwise_nearest cur cur.rest
  rw [hends]
  refine distinct_of_pairwise ?_
  split
  · exact List.pairwise_reverse.2 (hpair.imp Ne.symm)
  · exact hpair

/-- At most one repetition finds each end of the pattern once, and then the place itself. -/
theorem foldl_visit (step : Cursor → List Cursor) (l : List Cursor)
    (state : List Cursor × List (Std.HashSet Nat)) :
    (l.foldl (fun (state : List Cursor × List (Std.HashSet Nat)) (next : Cursor) =>
      if (state.2.headD ∅).contains next.consumed then state
      else
        let visited := upTo step true 0 next state.2.tail state.1
        (visited.1, (state.2.headD ∅).insert next.consumed :: visited.2)) state).1 =
      (unseen (state.2.headD ∅) l).reverse ++ state.1 := by
  induction l generalizing state with
  | nil => rfl
  | cons next l ih =>
    rw [List.foldl_cons, ih]
    by_cases h : (state.2.headD ∅).contains next.consumed = true
    · rw [if_pos h, unseen, if_pos h]
    · rw [if_neg h, unseen, if_neg h, List.reverse_cons, List.append_assoc]
      rfl

theorem ends_atMost_one (p : Pattern) (cur : Cursor) :
    (atMost true 1 p).ends cur = (alt p empty).ends cur := by
  have hfold := foldl_visit p.ends (p.ends cur) ([], [])
  have hends : (atMost true 1 p).ends cur = distinct (unseen ∅ (p.ends cur) ++ [cur]) := by
    show distinct (cur :: _).reverse = _
    rw [hfold, List.append_nil, List.reverse_cons, List.reverse_reverse]
    rfl
  rw [hends, ← distinct_eq_unseen, distinct_distinct_append]
  rfl

/-- A character ends at one place or at none. -/
theorem ends_one (s : CharSet) (cur : Cursor) :
    (one s).ends cur = [] ∨ ∃ next, (one s).ends cur = [next] := by
  unfold ends
  split
  · exact Or.inl rfl
  · split
    · exact Or.inr ⟨_, rfl⟩
    · exact Or.inl rfl

theorem ends_seq_two (s t : CharSet) (q : Pattern) (cur : Cursor) :
    (seq (one s) (seq (one t) q)).ends cur = (seq (seq (one s) (one t)) q).ends cur := by
  rw [ends_seq, ends_seq (seq _ _), ends_seq (one s)]
  rcases ends_one s cur with h | ⟨next, h⟩
  · rw [h]
    rfl
  · rw [h, List.flatMap_singleton, List.flatMap_singleton, ends_seq]
    rcases ends_one t next with h | ⟨last, h⟩
    · rw [h]
      rfl
    · have hlast : distinct [last] = [last] := rfl
      rw [h, hlast, List.flatMap_singleton, distinct_distinct]

/-- A chain ends where the one pattern after the other does. -/
theorem ends_chain (p q : Pattern) (cur : Cursor) : (chain p q).ends cur = (seq p q).ends cur := by
  unfold chain
  split
  · rw [ends_seq_none, distinct_ends_plus_one]
  · rw [ends_seq_none, ends_atMost_one]
    exact (distinct_distinct _).symm
  · exact ends_seq_two _ _ _ _
  · rfl

theorem chain_ne_one (p q : Pattern) (s : CharSet) : chain p q ≠ one s := by
  unfold chain
  split <;> exact Pattern.noConfusion

/-- **The plain form ends at the same places**, in the same order. -/
theorem ends_plain (p : Pattern) (cur : Cursor) : p.plain.ends cur = p.ends cur := by
  induction p generalizing cur with
  | empty => rfl
  | look condition => rfl
  | one s =>
    show (one s.plain).ends cur = _
    unfold ends
    split
    · rfl
    · rw [CharSet.contains_plain]
  | seq p q ihp ihq =>
    show (chain p.plain q.plain).ends cur = _
    rw [ends_chain, ends_seq, ends_seq, ihp, funext ihq]
  | alt p q ihp ihq =>
    show distinct (p.plain.ends cur ++ q.plain.ends cur) = _
    rw [ihp, ihq]
    rfl
  | plus greedy p ih =>
    show (plus greedy p.plain).ends cur = _
    by_cases hp : ∃ s, p = one s
    · -- a repeated character is read off the text
      obtain ⟨s, rfl⟩ := hp
      show (plus greedy (one s.plain)).ends cur = _
      rw [ends_plus_one, ends_plus_one, after_congr (CharSet.contains_plain s)]
    · have hplain : ∀ s, p.plain ≠ one s := by
        intro s
        cases p with
        | one s => exact absurd ⟨s, rfl⟩ hp
        | seq p q => exact chain_ne_one _ _ _
        | _ => exact Pattern.noConfusion
      rw [ends_plus hplain, ends_plus fun s h => hp ⟨s, h⟩, funext ih]
  | exactly n p ih =>
    show steps p.plain.ends n [cur] = _
    rw [funext ih]
    rfl
  | atMost greedy n p ih =>
    show distinct (upTo p.plain.ends greedy n cur [] []).1.reverse = _
    rw [funext ih]
    rfl

theorem isAnchored_chain (p q : Pattern) : (chain p q).isAnchored = p.isAnchored := by
  unfold chain
  split
  · rfl
  · exact Bool.and_false _
  · rfl
  · rfl

theorem isAnchored_plain (p : Pattern) : p.plain.isAnchored = p.isAnchored := by
  induction p with
  | seq p q ihp ihq => exact (isAnchored_chain _ _).trans ihp
  | alt p q ihp ihq =>
    show (p.plain.isAnchored && q.plain.isAnchored) = _
    rw [ihp, ihq]
    rfl
  | plus greedy p ih => exact ih
  | exactly n p ih => exact congrArg (n != 0 && ·) ih
  | _ => rfl

/-- **The plain form matches the same** in every text. -/
theorem find?_plain (p : Pattern) (text : List Char) : p.plain.find? text = p.find? text := by
  have hfound (cur : Cursor) : p.plain.found? cur = p.found? cur := by
    unfold found? matchAt?
    rw [ends_plain]
  have hsearch (before : Option Char) (consumed : Nat) :
      p.plain.search before consumed text = p.search before consumed text := by
    induction text generalizing before consumed with
    | nil => exact hfound _
    | cons c text ih =>
      unfold search
      rw [hfound, ih]
  unfold find?
  rw [isAnchored_plain, hfound, hsearch]

theorem find?_of_plain (h : p.plain = q.plain) (text : List Char) :
    p.find? text = q.find? text := by
  rw [← find?_plain, h, find?_plain]

/-! ## Texts of patterns -/

/-- What a text is read as, whatever room it takes. -/
def written? (text : List Char) : Option Part :=
  match (PatternReader.alternatives (2 * text.length + 2) Part.depthLimit [] [] false).run
    ⟨text, {}, []⟩ with
  | some (part, s) => if s.rest.isEmpty then some part else none
  | none => none

/-- A text is a pattern if it is read as one that keeps the limits. -/
theorem read?_eq (text : List Char) : Pattern.read? text =
    (written? text).bind fun part => if part.isAllowed then some part.pattern else none := by
  unfold written?
  show (Option.bind ((PatternReader.alternatives (2 * text.length + 2) Part.depthLimit [] []
    false).run ⟨text, {}, []⟩) fun found =>
      if (found.2.rest.isEmpty && found.1.isAllowed) = true then some found.1.pattern else none) = _
  cases (PatternReader.alternatives (2 * text.length + 2) Part.depthLimit [] [] false).run
    ⟨text, {}, []⟩ with
  | none => rfl
  | some found =>
    obtain ⟨part, s⟩ := found
    dsimp only [Option.bind_some]
    cases s.rest.isEmpty <;> rfl

end Pattern

namespace Highlight

open Grammar (rootState)

variable {g g' : Grammar} {rule : Rule} {rules rules' : List Rule}

/-! ## Rules that cannot be told apart -/

/-- The rules take the same of every text, give it the same kind and go on in the same state. -/
structure Rule.Alike (rule rule' : Rule) : Prop where
  kind : rule.kind = rule'.kind
  next : rule.next = rule'.next
  length : ∀ text, rule.length? text = rule'.length? text

/-- The states have the same names, and their rules cannot be told apart. -/
def Grammar.Alike (g g' : Grammar) : Prop :=
  g.name = g'.name ∧ List.Forall₂
    (fun s s' => s.1 = s'.1 ∧ List.Forall₂ Rule.Alike s.2 s'.2) g.states g'.states

theorem stepOf_of_alike (h : List.Forall₂ Rule.Alike rules rules') (state : String)
    (text : List Char) : stepOf state text rules = stepOf state text rules' := by
  induction h with
  | nil => rfl
  | cons h _ ih => rw [stepOf, stepOf, h.length, h.kind, h.next, ih]

/-- The rules of a state, among states whose rules cannot be told apart. -/
theorem lookup_of_alike {states states' : List (String × List Rule)}
    (h : List.Forall₂ (fun s s' => s.1 = s'.1 ∧ List.Forall₂ Rule.Alike s.2 s'.2) states states')
    (state : String) :
    (states.lookup state = none ∧ states'.lookup state = none) ∨
      ∃ rules rules', states.lookup state = some rules ∧ states'.lookup state = some rules' ∧
        List.Forall₂ Rule.Alike rules rules' := by
  induction h with
  | nil => exact Or.inl ⟨rfl, rfl⟩
  | @cons s s' _ _ hs _ ih =>
    obtain ⟨name, rules⟩ := s
    obtain ⟨name', rules'⟩ := s'
    obtain ⟨rfl, hrules⟩ := hs
    rw [List.lookup_cons, List.lookup_cons]
    cases state == name with
    | true => exact Or.inr ⟨rules, rules', rfl, rfl, hrules⟩
    | false => exact ih

/-- **Grammars whose rules cannot be told apart** tokenize every text alike. -/
theorem Grammar.tokenize_of_alike (h : g.Alike g') (text : List Char) :
    g.tokenize text = g'.tokenize text := by
  have hscan : ∀ state, g.scan state text = g'.scan state text := by
    -- on the length of the text, of which every step takes at least one character
    induction text using (measure List.length).wf.induction with
    | _ text ih =>
      intro state
      cases text with
      | nil => rw [scan_nil, scan_nil]
      | cons c cs =>
        rcases lookup_of_alike h.2 state with ⟨hn, hn'⟩ | ⟨rules, rules', hs, hs', hrules⟩
        · have hn : g.rules? state = none := hn
          have hn' : g'.rules? state = none := hn'
          rw [Grammar.scan, Grammar.scan, hn, hn', h.1]
        · have hstep := stepOf_of_alike hrules state (c :: cs)
          have hpos := stepOf_length_pos state (c :: cs) rules'
          rw [scan_step hs hstep, scan_step hs' rfl, ih _ (by
            show ((c :: cs).drop _).length < (c :: cs).length
            rw [List.length_drop, List.length_cons]
            omega)]
  unfold Grammar.tokenize
  rw [hscan]

/-! ## Rules and grammars as texts -/

/-- A rule as it is written. -/
structure RuleText where
  pattern : String
  kind : TokenKind
  next : Option String := none
  deriving Repr

/-- A grammar as it is written. -/
structure GrammarText where
  name : String
  aliases : List String := []
  states : List (String × List RuleText)
  deriving Repr

/-- The rule that is read. -/
def RuleText.read (w : RuleText) : Except HighlightError Rule :=
  (Rule.read w.pattern w.kind).map fun rule => { rule with next := w.next }

/-- The state that is read. -/
def readState (state : String × List RuleText) : Except HighlightError (String × List Rule) :=
  (state.2.mapM RuleText.read).map fun rules => (state.1, rules)

/-- The grammar that is read. -/
def GrammarText.read (w : GrammarText) : Except HighlightError Grammar :=
  (w.states.mapM readState).map fun states => { name := w.name, aliases := w.aliases, states }

/-- The pattern in the group that a rule puts it into. -/
def RuleText.enclosed (w : RuleText) : List Char := "^(?:".toList ++ w.pattern.toList ++ [')']

/-- There is room for what the pattern is read as. -/
def RuleText.fits (w : RuleText) : Bool := (Pattern.written? w.enclosed).all Part.isAllowed

/-- There is room for all patterns. -/
def GrammarText.fits (w : GrammarText) : Bool := w.states.all fun s => s.2.all RuleText.fits

/-- The rule has the kind and the next state of the text, and the plain form of its pattern. -/
def RuleText.Gives (w : RuleText) (rule : Rule) : Prop :=
  w.kind = rule.kind ∧ w.next = rule.next ∧
    (Pattern.written? w.enclosed).map (·.pattern.plain) = some rule.pattern.plain

instance (w : RuleText) (rule : Rule) : Decidable (w.Gives rule) := instDecidableAnd

/-- The text gives the rules of each state. -/
def GrammarText.Gives (w : GrammarText) (g : Grammar) : Prop :=
  w.name = g.name ∧ w.aliases = g.aliases ∧ List.Forall₂
    (fun s t => s.1 = t.1 ∧ List.Forall₂ RuleText.Gives s.2 t.2) w.states g.states

instance (w : GrammarText) (g : Grammar) : Decidable (w.Gives g) := instDecidableAnd

/-- A rule is read, if there is room, as one that cannot be told from a rule that its text gives. -/
theorem RuleText.Gives.read {w : RuleText} (hw : w.Gives rule) (hfits : w.fits = true) :
    ∃ rule', w.read = .ok rule' ∧ rule'.Alike rule := by
  obtain ⟨hkind, hnext, hplain⟩ := hw
  obtain ⟨part, hpart, hsame⟩ := Option.map_eq_some_iff.1 hplain
  have hallowed : part.isAllowed = true := by
    unfold RuleText.fits at hfits
    rwa [hpart] at hfits
  have hread : Pattern.read? w.enclosed = some part.pattern := by
    rw [Pattern.read?_eq, hpart]
    exact if_pos hallowed
  have hrule : Rule.read w.pattern w.kind = .ok { pattern := part.pattern, kind := w.kind } := by
    unfold Rule.read
    rw [show Pattern.read? ("^(?:".toList ++ w.pattern.toList ++ [')']) = _ from hread]
  refine ⟨{ pattern := part.pattern, kind := w.kind, next := w.next }, ?_, hkind, hnext,
    fun text => ?_⟩
  · unfold RuleText.read
    rw [hrule]
    rfl
  · unfold Rule.length?
    dsimp only
    rw [Pattern.find?_of_plain hsame]

/-- Reading in order, where each item is read as something like its counterpart. -/
theorem mapM_of_forall₂ {α β γ ε : Type} {R : α → γ → Prop} {S : β → γ → Prop}
    {f : α → Except ε β} {xs : List α} {zs : List γ} (h : List.Forall₂ R xs zs)
    (hf : ∀ x ∈ xs, ∀ z, R x z → ∃ y, f x = .ok y ∧ S y z) :
    ∃ ys, xs.mapM f = .ok ys ∧ List.Forall₂ S ys zs := by
  induction h with
  | nil => exact ⟨[], rfl, .nil⟩
  | @cons x z xs zs hr _ ih =>
    obtain ⟨y, hy, hs⟩ := hf x List.mem_cons_self z hr
    obtain ⟨ys, hys, hall⟩ := ih fun x hx => hf x (List.mem_cons_of_mem _ hx)
    refine ⟨y :: ys, ?_, .cons hs hall⟩
    rw [List.mapM_cons, hy, hys]
    rfl

/-- **A grammar is read**, if there is room for its patterns, as one that has the name and the
aliases of a grammar that its text gives, and tokenizes every text as that one does. -/
theorem GrammarText.Gives.read {w : GrammarText} (hw : w.Gives g) (hfits : w.fits = true) :
    ∃ g', w.read = .ok g' ∧ g'.name = g.name ∧ g'.aliases = g.aliases ∧
      ∀ text, g'.tokenize text = g.tokenize text := by
  obtain ⟨hname, haliases, hstates⟩ := hw
  obtain ⟨states, hread, hsame⟩ := mapM_of_forall₂ (f := readState)
    (S := fun s t => s.1 = t.1 ∧ List.Forall₂ Rule.Alike s.2 t.2) hstates (by
      rintro ⟨state, texts⟩ hmem t ⟨hstate, hgives⟩
      obtain ⟨rules, hrules, halike⟩ := mapM_of_forall₂ (f := RuleText.read) hgives
        fun x hx z hz => hz.read (List.all_eq_true.1 (List.all_eq_true.1 hfits _ hmem) x hx)
      refine ⟨(state, rules), ?_, hstate, halike⟩
      unfold readState
      rw [hrules]
      rfl)
  have halike : Grammar.Alike { name := w.name, aliases := w.aliases, states } g := ⟨hname, hsame⟩
  refine ⟨_, ?_, hname, haliases, Grammar.tokenize_of_alike halike⟩
  unfold GrammarText.read
  rw [hread]
  rfl

/-! ## The built-in grammars -/

/-- The grammar of JavaScript as it is written. -/
def writtenJavascript : GrammarText :=
  { name := "javascript"
    aliases := ["js", "mjs"]
    states :=
      [(rootState,
          [⟨"\\s+", .text, none⟩,
            ⟨"//[^\\n]*", .comment, none⟩,
            ⟨"/\\*[\\s\\S]*?\\*/", .comment, none⟩,
            ⟨"\x60(?:[^\x60\\\\]|\\\\[\\s\\S])*\x60", .string, none⟩,
            ⟨"\"(?:[^\"\\\\\\n]|\\\\.)*\"", .string, none⟩,
            ⟨"'(?:[^'\\\\\\n]|\\\\.)*'", .string, none⟩,
            ⟨"(?:0[xX][0-9a-fA-F_]+|\\d[\\d_]*(?:\\.\\d+)?(?:[eE][+-]?\\d+)?)n?\\b", .number, none⟩,
            ⟨"(?:async|await|break|case|catch|class|const|continue|debugger|default|delete|do|" ++
                "else|export|extends|finally|for|from|function|if|import|in|instanceof|let|new|" ++
                "of|return|static|super|switch|this|throw|try|typeof|var|void|while|with|yield)\\b",
              .keyword, none⟩,
            ⟨"(?:true|false|null|undefined|NaN|Infinity)\\b", .keywordConstant, none⟩,
            ⟨"[A-Za-z_$][\\w$]*", .name, none⟩,
            ⟨"[=+\\-*/%<>!&|^~?:]+", .operator, none⟩,
            ⟨"[\x7b\x7d()\\[\\];,.]", .punctuation, none⟩])] }

/-- The grammar of transcripts as it is written. -/
def writtenTranscript : GrammarText :=
  { name := "transcript"
    aliases := ["console"]
    states :=
      [(rootState,
          [⟨"\\$[^\\n]*", .prompt, some "prompt-end"⟩,
            ⟨"[^\\n]*\\n", .output, none⟩,
            ⟨"[^\\n]+", .output, none⟩]),
        ("prompt-end", [⟨"\\n", .text, some "output"⟩]),
        ("output", [⟨"[\\s\\S]+", .output, none⟩])] }

theorem gives_javascript : writtenJavascript.Gives .javascript := by
  decide +kernel

theorem gives_transcript : writtenTranscript.Gives .transcript := by
  decide +kernel

/-- **The grammar of JavaScript as it is written** is the built-in one for every text. -/
theorem javascript_as_written (hfits : writtenJavascript.fits = true) :
    ∃ g, writtenJavascript.read = .ok g ∧ g.name = Grammar.javascript.name ∧
      g.aliases = Grammar.javascript.aliases ∧
      ∀ text, g.tokenize text = Grammar.javascript.tokenize text :=
  gives_javascript.read hfits

/-- **The grammar of transcripts as it is written** is the built-in one for every text. -/
theorem transcript_as_written (hfits : writtenTranscript.fits = true) :
    ∃ g, writtenTranscript.read = .ok g ∧ g.name = Grammar.transcript.name ∧
      g.aliases = Grammar.transcript.aliases ∧
      ∀ text, g.tokenize text = Grammar.transcript.tokenize text :=
  gives_transcript.read hfits

/-- There is room for the rules of a transcript before the output. -/
example : (writtenTranscript.states.take 2).all (fun s => s.2.all RuleText.fits) = true := by
  decide +kernel

end Highlight

end LiterateSite
