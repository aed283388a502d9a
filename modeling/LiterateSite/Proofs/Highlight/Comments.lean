import Mathlib.Data.List.TakeWhile
import LiterateSite.Proofs.Highlight.Quoted

/-!
# Comments of JavaScript

* `Opens`, `Covers`: where a comment opens, and how far it goes at least.
* `coalesce_append`, `split_of_coalesce`: merging and the places where tokens begin.
* `opens_of_word?`, `choice?_of_opens`: a rule for comments takes a text if and only if a comment
  opens there, and takes all of the comment.
* `takes_before`: one step in front of the first comment, in a text without quote marks. It ends
  before the comment or right there, unless it is one of operators that the opener lengthens.
* `run_comment`, `run_no_comment`: from it, a whole run, by induction on what stands before.
* `tokenize_comment`: **the first comment is a token, if and only if no operator stands right before
  it.**
-/

namespace LiterateSite.Highlight

open CharSet Pattern
open Grammar (rootState)
open Text (isWord)

variable {rule : Rule} {t : Token} {steps before after tokens : List Token}
variable {text front rest word more left : List Char} {c : Char}

/-! ## Comments and operators -/

/-- A comment opens at the start of the text: a line comment, or a block comment that is closed. -/
def Opens (text : List Char) : Prop :=
  ['/', '/'] <+: text ∨ ['/', '*'] <+: text ∧ ['*', '/'] <:+: text.drop 2

instance : DecidablePred Opens := fun _ => inferInstanceAs (Decidable (_ ∨ _))

/-- The word stands after `body`, and does not begin sooner. -/
def FirstAfter (body word rest : List Char) : Prop :=
  ∀ sooner later, body = sooner ++ later → later ≠ [] → ¬word <+: later ++ word ++ rest

/-- The word takes the comment that the text begins with: a line comment up to the end of the line,
a block comment up to the end of the first `*/` after the opener. -/
def Covers (text word : List Char) : Prop :=
  (∃ line rest, text = ['/', '/'] ++ line ++ rest ∧ '\n' ∉ line ∧ (∀ c ∈ rest.head?, c = '\n') ∧
    ['/', '/'] ++ line <+: word) ∨
  ∃ body rest, text = ['/', '*'] ++ body ++ ['*', '/'] ++ rest ∧ FirstAfter body ['*', '/'] rest ∧
    ['/', '*'] ++ body ++ ['*', '/'] <+: word

theorem Covers.append (h : Covers text word) (more : List Char) : Covers text (word ++ more) := by
  rcases h with ⟨line, rest, ht, hn, hr, hp⟩ | ⟨body, rest, ht, hf, hp⟩
  · exact Or.inl ⟨line, rest, ht, hn, hr, hp.trans (List.prefix_append _ _)⟩
  · exact Or.inr ⟨body, rest, ht, hf, hp.trans (List.prefix_append _ _)⟩

/-- The characters of operators. -/
def operatorMarks : List Char := "=+-*/%<>!&|^~?:".toList

def lineCommentRule : Rule := .anchored (seq (literal "//") (star true (one inLine))) .comment

def blockCommentRule : Rule :=
  .anchored (seqAll [literal "/*", star false (one anything), literal "*/"]) .comment

def operatorRule : Rule := .anchored (plus true (one (oneOf "=+-*/%<>!&|^~?:"))) .operator

/-! ## Merging, and where tokens begin -/

theorem attach_append (t : Token) (h : tokens ≠ []) (others : List Token) :
    t.attach (tokens ++ others) = t.attach tokens ++ others := by
  cases tokens with
  | nil => exact absurd rfl h
  | cons u rest =>
    by_cases hk : t.kind = u.kind
    · rw [List.cons_append, attach_same hk, attach_same hk]
      rfl
    · rw [List.cons_append, attach_other hk, attach_other hk]
      rfl

theorem coalesce_ne_nil (h : steps ≠ []) : coalesce steps ≠ [] := by
  intro he
  have hmap := head?_coalesce_kind steps
  rw [he] at hmap
  exact h (List.head?_eq_none_iff.1 (Option.map_eq_none_iff.1 hmap.symm))

/-- **Merging does not cross** a place where the kind changes. -/
theorem coalesce_append (h : ∀ t ∈ before.getLast?, ∀ u ∈ after.head?, u.kind ≠ t.kind) :
    coalesce (before ++ after) = coalesce before ++ coalesce after := by
  induction before with
  | nil => rfl
  | cons t before ih =>
    rcases eq_or_ne before [] with rfl | hne
    · exact coalesce_cons (h t rfl)
    · have hlast : (t :: before).getLast? = before.getLast? := by
        obtain ⟨u, rest, rfl⟩ := List.exists_cons_of_ne_nil hne
        exact List.getLast?_cons_cons
      show t.attach (coalesce (before ++ after)) = t.attach (coalesce before) ++ _
      rw [ih (hlast ▸ h), attach_append t (coalesce_ne_nil hne)]

/-- The first token goes on with what is merged into it. -/
theorem coalesce_head (t : Token) (steps : List Token) :
    ∃ more later, coalesce (t :: steps) = ⟨t.kind, t.text ++ more⟩ :: later := by
  show ∃ more later, t.attach (coalesce steps) = _
  cases coalesce steps with
  | nil => exact ⟨[], [], by rw [List.append_nil]; rfl⟩
  | cons u rest =>
    by_cases hk : t.kind = u.kind
    · exact ⟨u.text, rest, by rw [attach_same hk, hk]⟩
    · exact ⟨[], u :: rest, by rw [attach_other hk, List.append_nil]⟩

theorem split_of_glued {groups : List (List Token)}
    (h : List.Forall₂ Token.Glued (before ++ after) groups) :
    ∃ sooner later, groups.flatten = sooner ++ later ∧ textOf sooner = textOf before := by
  induction before generalizing groups with
  | nil => exact ⟨[], groups.flatten, rfl, rfl⟩
  | cons t before ih =>
    obtain ⟨group, groups, hg, hrest, rfl⟩ := List.forall₂_cons_left_iff.1 h
    obtain ⟨sooner, later, hflat, htext⟩ := ih hrest
    refine ⟨group ++ sooner, later, ?_, ?_⟩
    · rw [List.flatten_cons, hflat, List.append_assoc]
    · rw [textOf_cons, ← htext, hg.text]
      exact textOf_append _ _

/-- **Where a token begins**, a step begins. -/
theorem split_of_coalesce (h : coalesce steps = before ++ after) :
    ∃ sooner later, steps = sooner ++ later ∧ textOf sooner = textOf before := by
  obtain ⟨groups, rfl, hg, -⟩ := merged_coalesce steps
  rw [h] at hg
  exact split_of_glued hg

/-! ## The rules for comments -/

/-- A match of a rule's pattern ends where the pattern can end. -/
theorem Rule.mem_ends_of_word? {p : Pattern} (hr : rule.pattern = .seq (.look .textStart) p)
    (h : rule.word? text = some word) : ∃ stop, stop ∈ p.ends (.start text) := by
  obtain ⟨-, stop, hf, -⟩ := Rule.of_word? h
  rw [hr, find?_anchored] at hf
  obtain ⟨stop, hm, -⟩ := Option.map_eq_some_iff.1 hf
  exact ⟨stop, List.mem_of_mem_head? hm⟩

theorem prefix_of_mem_literal {s : String} {cur next : Cursor} (h : next ∈ (literal s).ends cur) :
    s.toList <+: cur.rest ∧ next = cur.past s.toList := by
  rw [ends_literal] at h
  split at h
  · exact ⟨‹_›, List.mem_singleton.1 h⟩
  · exact absurd h List.not_mem_nil

/-- **A rule for comments** takes a text only if a comment opens there. -/
theorem opens_of_word? (hm : rule ∈ javascriptRules) (hk : rule.kind = .comment)
    (h : rule.word? text = some word) : Opens text := by
  have hmem : rule ∈ javascriptRules.filter (·.kind == .comment) :=
    List.mem_filter.2 ⟨hm, beq_iff_eq.2 hk⟩
  rw [show javascriptRules.filter (·.kind == .comment) = [lineCommentRule, blockCommentRule]
    from rfl] at hmem
  rcases List.mem_cons.1 hmem with rfl | hmem
  · obtain ⟨stop, hstop⟩ := Rule.mem_ends_of_word? rfl h
    obtain ⟨mid, hmid, -⟩ := List.mem_flatMap.1 (Cursor.mem_of_mem_distinct hstop)
    exact Or.inl (prefix_of_mem_literal hmid).1
  · obtain rfl := List.mem_singleton.1 hmem
    obtain ⟨stop, hstop⟩ := Rule.mem_ends_of_word? rfl h
    obtain ⟨opened, hopened, hinside⟩ := List.mem_flatMap.1 (Cursor.mem_of_mem_distinct hstop)
    obtain ⟨closing, hclosing, hclosed⟩ := List.mem_flatMap.1 (Cursor.mem_of_mem_distinct hinside)
    obtain ⟨⟨rest, hr⟩, rfl⟩ := prefix_of_mem_literal hopened
    obtain ⟨skipped, hs, -⟩ := reaches_of_mem_ends _ _ closing hclosing
    have hr : ['/', '*'] ++ rest = text := hr
    have hrest : rest = skipped ++ closing.rest :=
      (Cursor.past_rest (show text = ['/', '*'] ++ rest from hr.symm)).symm.trans hs
    refine Or.inr ⟨⟨rest, hr⟩, ?_⟩
    rw [← hr, show (['/', '*'] ++ rest).drop 2 = rest from rfl, hrest]
    exact (prefix_of_mem_literal hclosed).1.isInfix.trans (List.suffix_append _ _).isInfix

/-- The first place where the text goes on with a word that it has in it. -/
theorem exists_first (h : word <:+: text) :
    ∃ body rest, text = body ++ word ++ rest ∧ FirstAfter body word rest := by
  induction text with
  | nil =>
    obtain rfl := List.infix_nil.1 h
    exact ⟨[], [], rfl, fun sooner later he hne => absurd (List.append_eq_nil_iff.1 he.symm).2 hne⟩
  | cons c text ih =>
    by_cases hp : word <+: c :: text
    · obtain ⟨rest, hr⟩ := hp
      exact ⟨[], rest, hr.symm,
        fun sooner later he hne => absurd (List.append_eq_nil_iff.1 he.symm).2 hne⟩
    · obtain ⟨body, rest, ht, hf⟩ := ih ((List.infix_cons_iff.1 h).resolve_left hp)
      refine ⟨c :: body, rest, by rw [ht]; rfl, fun sooner later he hne => ?_⟩
      cases sooner with
      | nil =>
        rw [← show c :: body = later from he]
        rwa [ht] at hp
      | cons d sooner => exact hf sooner later (List.cons.inj he).2 hne

theorem word?_lineComment {line : List Char} (hn : '\n' ∉ line) (hr : ∀ c ∈ rest.head?, c = '\n') :
    lineCommentRule.word? (['/', '/'] ++ line ++ rest) = some (['/', '/'] ++ line) := by
  have hopen : (literal "//").matchAt? (.start (['/', '/'] ++ line ++ rest)) =
      some ((Cursor.start (['/', '/'] ++ line ++ rest)).past ['/', '/']) := by
    unfold matchAt?
    rw [ends_literal, if_pos ⟨line ++ rest, (List.append_assoc _ _ _).symm⟩]
    rfl
  refine Rule.word?_of_past rfl ?_ rfl (List.cons_ne_nil _ _)
  rw [Cursor.past_append]
  refine matchAt?_seq hopen (matchAt?_star_one (fun c hc => ?_) (fun c hc => ?_)
    (Cursor.past_rest (List.append_assoc _ _ _)))
  · rw [contains_inLine]
    exact decide_eq_true (ne_of_mem_of_not_mem hc hn)
  · rw [contains_inLine, hr c hc]
    rfl

theorem word?_blockComment {body : List Char} (hf : FirstAfter body ['*', '/'] rest) :
    blockCommentRule.word? (['/', '*'] ++ body ++ ['*', '/'] ++ rest) =
      some (['/', '*'] ++ body ++ ['*', '/']) := by
  let text := ['/', '*'] ++ body ++ ['*', '/'] ++ rest
  have happ : text = ['/', '*'] ++ (body ++ (['*', '/'] ++ rest)) := by simp [text]
  let inside := (Cursor.start text).past ['/', '*']
  have hinside : inside.rest = body ++ (['*', '/'] ++ rest) := Cursor.past_rest happ
  have hopen : (literal "/*").matchAt? (.start text) = some inside := by
    unfold matchAt?
    rw [ends_literal, if_pos ⟨_, happ.symm⟩]
    rfl
  have hclose : (literal "*/").matchAt? (inside.past body) =
      some ((inside.past body).past ['*', '/']) := by
    unfold matchAt?
    rw [ends_literal, if_pos ⟨rest, (Cursor.past_rest hinside).symm⟩]
    rfl
  have hlazy : (seq (star false (one anything)) (literal "*/")).matchAt? inside =
      some ((inside.past body).past ['*', '/']) := by
    refine matchAt?_lazy hinside (fun _ _ => rfl) (fun sooner later he hne => ?_) hclose
    have hrest : (inside.past sooner).rest = later ++ ['*', '/'] ++ rest :=
      Cursor.past_rest (by rw [hinside, he]; simp)
    rw [ends_literal, hrest]
    exact if_neg (hf sooner later he hne)
  refine Rule.word?_of_past rfl ?_ rfl (List.cons_ne_nil _ _)
  rw [Cursor.past_append, Cursor.past_append]
  exact matchAt?_seq hopen hlazy

/-- **Where a comment opens**, it is taken. -/
theorem choice?_of_opens (h : Opens text) :
    ∃ rule word, choice? javascriptRules text = some (rule, word) ∧ rule.kind = .comment ∧
      Covers text word := by
  have hslash (rest : List Char) : choice? javascriptRules ('/' :: rest) =
      choice? [lineCommentRule, blockCommentRule, operatorRule] ('/' :: rest) := by
    rw [choice?_filter, show javascriptRules.filter (·.pattern.begins '/') =
      [lineCommentRule, blockCommentRule, operatorRule] from rfl]
  rcases h with ⟨rest, rfl⟩ | ⟨⟨rest, rfl⟩, hclosed⟩
  · -- the line up to its end
    let line := rest.takeWhile (· ≠ '\n')
    let later := rest.dropWhile (· ≠ '\n')
    have hn : '\n' ∉ line := fun h => by simpa using List.mem_takeWhile_imp h
    have hl : ∀ c ∈ later.head?, c = '\n' := by
      intro c hc
      have := List.head?_dropWhile_not (fun c : Char => decide (c ≠ '\n')) rest
      rw [Option.mem_def.1 hc] at this
      simpa using this
    have ht : ['/', '/'] ++ rest = ['/', '/'] ++ line ++ later := by
      rw [List.append_assoc, List.takeWhile_append_dropWhile]
    refine ⟨lineCommentRule, ['/', '/'] ++ line, ?_, rfl,
      Or.inl ⟨line, later, ht, hn, hl, List.prefix_refl _⟩⟩
    have hword := word?_lineComment hn hl
    rw [← ht] at hword
    rw [show ['/', '/'] ++ rest = '/' :: ('/' :: rest) from rfl, hslash, choice?_cons]
    rw [show '/' :: '/' :: rest = ['/', '/'] ++ rest from rfl, hword]
    rfl
  · obtain ⟨body, later, hr, hf⟩ := exists_first hclosed
    have hr : rest = body ++ ['*', '/'] ++ later := hr
    have ht : ['/', '*'] ++ rest = ['/', '*'] ++ body ++ ['*', '/'] ++ later := by rw [hr]; simp
    refine ⟨blockCommentRule, ['/', '*'] ++ body ++ ['*', '/'], ?_, rfl,
      Or.inr ⟨body, later, ht, hf, List.prefix_refl _⟩⟩
    have hword := word?_blockComment hf
    rw [← ht] at hword
    have hline : lineCommentRule.word? (['/', '*'] ++ rest) = none := by
      refine Rule.word?_of_none rfl (matchAt?_seq_none fun next hn => ?_)
      obtain ⟨⟨later, hl⟩, -⟩ := prefix_of_mem_literal hn
      have hl : '/' :: '/' :: later = '/' :: '*' :: rest := hl
      injection hl with _ hl
      injection hl with hl
      exact absurd hl (by decide)
    rw [show ['/', '*'] ++ rest = '/' :: ('*' :: rest) from rfl, hslash, choice?_cons, choice?_cons]
    rw [show '/' :: '*' :: rest = ['/', '*'] ++ rest from rfl, hline, hword]
    rfl

/-! ## What stands before a comment -/

/-- The first comment of the text opens after `front`, and no quote mark stands before it. -/
structure FirstOpens (front rest : List Char) : Prop where
  unquoted : ∀ c ∈ front, c ∉ quoteMarks
  opens : Opens rest
  first : ∀ sooner later, front = sooner ++ later → later ≠ [] → ¬Opens (later ++ rest)

theorem FirstOpens.past (h : FirstOpens (word ++ more) rest) : FirstOpens more rest where
  unquoted c hc := h.unquoted c (List.mem_append_right _ hc)
  opens := h.opens
  first sooner later he := h.first (word ++ sooner) later (by rw [he, List.append_assoc])

/-- Every opener begins with an operator. -/
theorem Opens.slash (h : Opens text) : ∃ rest, text = '/' :: rest := by
  rcases h with ⟨rest, rfl⟩ | ⟨⟨rest, rfl⟩, -⟩
  · exact ⟨'/' :: rest, rfl⟩
  · exact ⟨'*' :: rest, rfl⟩

theorem operatorRule_eq (hm : rule ∈ javascriptRules) (hk : rule.kind = .operator) :
    rule = operatorRule := by
  have hmem : rule ∈ javascriptRules.filter (·.kind == .operator) :=
    List.mem_filter.2 ⟨hm, beq_iff_eq.2 hk⟩
  exact List.mem_singleton.1 (show rule ∈ [operatorRule] from hmem)

/-- **The rule of operators** takes all operators in a row. -/
theorem word?_operatorRule (text : List Char) :
    operatorRule.word? text =
      if text.takeWhile (· ∈ operatorMarks) = [] then none
      else some (text.takeWhile (· ∈ operatorMarks)) := by
  have hset (c : Char) : (oneOf "=+-*/%<>!&|^~?:").contains c = decide (c ∈ operatorMarks) :=
    contains_oneOf _ c
  have happ : text.takeWhile (· ∈ operatorMarks) ++ text.dropWhile (· ∈ operatorMarks) = text :=
    List.takeWhile_append_dropWhile
  have hmatch : (plus true (one (oneOf "=+-*/%<>!&|^~?:"))).matchAt? (.start text) =
      if text.takeWhile (· ∈ operatorMarks) = [] then none
      else some ((Cursor.start text).past (text.takeWhile (· ∈ operatorMarks))) := by
    refine matchAt?_plus_one (fun c hc => ?_) (fun c hc => ?_) happ.symm
    · rw [hset]
      exact List.mem_takeWhile_imp (p := fun c => decide (c ∈ operatorMarks)) hc
    · have hstop := List.head?_dropWhile_not (fun c => decide (c ∈ operatorMarks)) text
      rw [Option.mem_def.1 hc] at hstop
      rw [hset]
      exact hstop
  split
  · rename_i hnil
    exact Rule.word?_of_none rfl (hmatch.trans (if_pos hnil))
  · rename_i hne
    exact Rule.word?_of_past rfl (hmatch.trans (if_neg hne)) happ.symm hne

/-- A number before a character that is no word character ends with one. -/
theorem getLast_of_number (hm : rule ∈ javascriptRules) (hk : rule.kind = .number)
    (h : rule.word? (word ++ c :: rest) = some word) (hc : isWord c = false) :
    ∀ d ∈ word.getLast?, isWord d = true := by
  have hmem : rule ∈ javascriptRules.filter (·.kind == .number) :=
    List.mem_filter.2 ⟨hm, beq_iff_eq.2 hk⟩
  obtain rfl : rule = .anchored javascriptNumber .number :=
    List.mem_singleton.1 (show rule ∈ [Rule.anchored javascriptNumber .number] from hmem)
  -- the last part of the pattern is a word edge
  obtain ⟨mid, hedge⟩ : ∃ mid, (look (.wordEdge false)).Leads mid
      ((Cursor.start (word ++ c :: rest)).past word) := by
    cases (Rule.spells_of_word? h).1 with
    | seq _ inner =>
      cases inner with
      | seq _ inner =>
        cases inner with
        | seq _ edge => exact ⟨_, edge⟩
  generalize hlast : (Cursor.start (word ++ c :: rest)).past word = last at hedge
  cases hedge with
  | look hedge =>
    have hbefore : mid.before = word.getLast? := by
      rw [← hlast, Cursor.past_before]
      exact Option.or_none
    have hrest : mid.rest = c :: rest := by
      rw [← hlast]
      exact Cursor.past_rest rfl
    have hedge : (mid.before.any isWord != mid.rest.head?.any isWord) = true := hedge
    rw [hrest, hbefore, List.head?_cons, Option.any_some, hc, Bool.bne_false] at hedge
    intro d hd
    rwa [Option.mem_def.1 hd, Option.any_some] at hedge

/-- The rules that may take an operator. -/
theorem not_admits_operator : ∀ rule ∈ javascriptRules,
    rule.kind = .comment ∨ rule.kind = .string ∨ rule.kind = .operator ∨ rule.kind = .number ∨
      ∀ c ∈ operatorMarks, rule.pattern.admits c = false := by
  have hall : ∀ rule ∈ javascriptRules,
      rule.kind = .comment ∨ rule.kind = .string ∨ rule.kind = .operator ∨ rule.kind = .number ∨
        operatorMarks.all (!rule.pattern.admits ·) = true := by
    decide
  simpa using hall

/-- A rule that takes a slash, and neither comments nor strings, takes operators. -/
theorem operator_of_admits_slash : ∀ rule ∈ javascriptRules, rule.pattern.admits '/' = true →
    rule.kind = .comment ∨ rule.kind = .string ∨ rule.kind = .operator := by
  decide

/-- **One step**: the chosen rule takes its word, or one character is plain text. -/
structure TakesFirst (text : List Char) (t : Token) (left : List Char) : Prop where
  splits : text = t.text ++ left
  inhabited : t.text ≠ []
  chosen : (∃ rule, choice? javascriptRules text = some (rule, t.text) ∧ rule.kind = t.kind) ∨
    t.kind = .text ∧ choice? javascriptRules text = none ∧ ∃ c, t.text = [c]

/-- A run of a text that is not empty begins with a step, and goes on in the same state. -/
theorem run_cases (h : Run .javascript rootState text steps) (hne : text ≠ []) :
    ∃ t later left, steps = t :: later ∧ TakesFirst text t left ∧
      Run .javascript rootState left later := by
  cases h with
  | done => exact absurd rfl hne
  | rule hs hc ht later =>
    cases rules?_javascript.symm.trans hs
    have hstays : ∀ rule ∈ javascriptRules, rule.next = none := by decide
    obtain ⟨hw, sooner, others, hrules, -⟩ := of_choice? hc
    rw [hstays _ (by rw [hrules]; simp)] at later
    exact ⟨_, _, _, rfl, ⟨ht, (Rule.of_word? hw).1, Or.inl ⟨_, hc, rfl⟩⟩, later⟩
  | plain hs hc later =>
    cases rules?_javascript.symm.trans hs
    exact ⟨_, _, _, rfl, ⟨rfl, List.cons_ne_nil _ _, Or.inr ⟨rfl, hc, _, rfl⟩⟩, later⟩

/-- A rule that takes a text where no comment opens and no quote mark stands. -/
theorem kind_of_word? (hm : rule ∈ javascriptRules) (h : rule.word? text = some word)
    (ho : ¬Opens text) (hq : ∀ c ∈ text.head?, c ∉ quoteMarks) :
    rule.kind ≠ .comment ∧ rule.kind ≠ .string := by
  refine ⟨fun hk => ho (opens_of_word? hm hk h), fun hk => ?_⟩
  cases text with
  | nil =>
    obtain ⟨hne, stop, -, ht, -⟩ := Rule.of_word? h
    exact hne (List.append_eq_nil_iff.1 ht.symm).1
  | cons c text =>
    refine hq c rfl (mark_of_begins hm hk ?_)
    cases hb : rule.pattern.begins c with
    | true => rfl
    | false => rw [Rule.word?_of_begins hb] at h; cases h

/-- **A token up to a comment** does not end with an operator: the rule of operators would have
taken the opener, too. -/
theorem getLast_of_word? (hm : rule ∈ javascriptRules) (h : rule.word? (word ++ rest) = some word)
    (hk : rule.kind ≠ .comment ∧ rule.kind ≠ .string) (ho : Opens rest) :
    ∀ c ∈ word.getLast?, c ∉ operatorMarks := by
  obtain ⟨more, rfl⟩ := ho.slash
  intro c hc hmark
  rcases not_admits_operator rule hm with hcomment | hstring | hoperator | hnumber | hnone
  · exact hk.1 hcomment
  · exact hk.2 hstring
  · -- the opener is part of the run of operators
    obtain rfl := operatorRule_eq hm hoperator
    rw [word?_operatorRule] at h
    split at h
    · cases h
    · have hrun := Option.some.inj h
      have hall : ∀ d ∈ word, decide (d ∈ operatorMarks) = true :=
        fun d hd => List.mem_takeWhile_imp (p := fun c => decide (c ∈ operatorMarks)) (hrun ▸ hd)
      rw [List.takeWhile_append_of_pos hall, List.takeWhile_cons_of_pos (by decide)] at hrun
      exact absurd (List.append_right_eq_self.1 hrun) (List.cons_ne_nil _ _)
  · have hletter : ∀ d ∈ operatorMarks, isWord d = false := by
      simpa using show operatorMarks.all (!isWord ·) = true by decide
    have hword := getLast_of_number hm hnumber h (hletter '/' (by decide)) c hc
    rw [hletter c hmark] at hword
    cases hword
  · have hletter := (Rule.spells_of_word? h).2.letters c (List.mem_of_mem_getLast? hc)
    rw [hnone c hmark] at hletter
    cases hletter

/-- **A token into a comment** consists of operators. -/
theorem operators_of_word? (hm : rule ∈ javascriptRules) (h : rule.word? text = some word)
    (hk : rule.kind ≠ .comment ∧ rule.kind ≠ .string) (hs : '/' ∈ word) :
    ∀ c ∈ word, c ∈ operatorMarks := by
  have hletter := (Rule.spells_of_word? h).2.letters '/' hs
  have hoperator := ((operator_of_admits_slash rule hm hletter).resolve_left hk.1).resolve_left hk.2
  obtain rfl := operatorRule_eq hm hoperator
  rw [word?_operatorRule] at h
  split at h
  · cases h
  · intro c hc
    rw [← Option.some.inj h] at hc
    exact of_decide_eq_true
      (List.mem_takeWhile_imp (p := fun c => decide (c ∈ operatorMarks)) hc)

/-- A character that no rule takes is no operator. -/
theorem not_operator_of_choice? (h : choice? javascriptRules (c :: text) = none) :
    c ∉ operatorMarks := by
  intro hc
  have hmem : operatorRule ∈ javascriptRules :=
    List.mem_of_mem_drop (show operatorRule ∈ javascriptRules.drop 10 from List.mem_cons_self)
  have hnone := Option.map_eq_none_iff.1 (List.findSome?_eq_none_iff.1 h operatorRule hmem)
  have hrun : (c :: text).takeWhile (· ∈ operatorMarks) = c :: text.takeWhile (· ∈ operatorMarks) :=
    List.takeWhile_cons_of_pos (decide_eq_true hc)
  rw [word?_operatorRule, hrun, if_neg (List.cons_ne_nil _ _)] at hnone
  cases hnone

/-- **What the first step takes**, if the first comment opens after `front`: it is no comment, and
it ends before the comment or right there, unless it takes the opener as operators. -/
theorem takes_before (h : FirstOpens front rest) (hne : front ≠ [])
    (hstep : TakesFirst (front ++ rest) t left) : t.kind ≠ .comment ∧
      ((∃ more, front = t.text ++ more ∧ (more = [] → ∀ c ∈ front.getLast?, c ∉ operatorMarks)) ∨
        ∃ more, more ≠ [] ∧ t.text = front ++ more ∧ ∀ c ∈ front.getLast?, c ∈ operatorMarks) := by
  rcases hstep.chosen with ⟨rule, hc, hk⟩ | ⟨hk, hc, c, ht⟩
  · -- a rule takes a word
    obtain ⟨hw, sooner, others, hrules, -⟩ := of_choice? hc
    have hm : rule ∈ javascriptRules := by rw [hrules]; simp
    have hkind : rule.kind ≠ .comment ∧ rule.kind ≠ .string := by
      refine kind_of_word? hm hw (h.first [] front rfl hne) fun c hc => ?_
      rw [List.head?_append_of_ne_nil _ hne] at hc
      exact h.unquoted c (List.mem_of_mem_head? hc)
    refine ⟨hk ▸ hkind.1, ?_⟩
    rcases List.append_eq_append_iff.1 hstep.splits with
      ⟨more, hword, hrest⟩ | ⟨more, hfront, hleft⟩
    · rcases eq_or_ne more [] with rfl | hmore
      · rw [List.append_nil] at hword
        refine Or.inl ⟨[], by rw [hword, List.append_nil], fun _ => ?_⟩
        rw [hword] at hw
        exact getLast_of_word? hm hw hkind h.opens
      · refine Or.inr ⟨more, hmore, hword, fun c hc => ?_⟩
        have hs : '/' ∈ t.text := by
          obtain ⟨others, hslash⟩ := h.opens.slash
          obtain ⟨d, tail, rfl⟩ := List.exists_cons_of_ne_nil hmore
          rw [hslash] at hrest
          obtain rfl := (List.cons.inj hrest).1
          rw [hword]
          exact List.mem_append_right _ List.mem_cons_self
        refine operators_of_word? hm hw hkind hs c ?_
        rw [hword]
        exact List.mem_append_left _ (List.mem_of_mem_getLast? hc)
    · refine Or.inl ⟨more, hfront, fun hn => ?_⟩
      rw [hn, List.append_nil] at hfront
      rw [← hfront] at hw
      exact getLast_of_word? hm hw hkind h.opens
  · -- one character is plain text
    refine ⟨by rw [hk]; decide, Or.inl ?_⟩
    obtain ⟨d, more, rfl⟩ := List.exists_cons_of_ne_nil hne
    have happ := hstep.splits
    rw [ht] at happ ⊢
    obtain rfl := (List.cons.inj happ).1
    refine ⟨more, rfl, fun hn e he => ?_⟩
    rw [hn] at he
    obtain rfl := Option.some.inj (Option.mem_def.1 he)
    exact not_operator_of_choice? hc

/-! ## Runs up to a comment -/

/-- **A run comes to the comment** if no operator stands before it. -/
theorem run_comment (h : FirstOpens front rest) (hlast : ∀ c ∈ front.getLast?, c ∉ operatorMarks)
    (hrun : Run .javascript rootState (front ++ rest) steps) :
    ∃ before t after, steps = before ++ t :: after ∧ textOf before = front ∧
      (∀ u ∈ before, u.kind ≠ .comment) ∧ t.kind = .comment ∧ Covers rest t.text := by
  -- on what stands before the comment, of which every step takes a part
  induction front using (measure List.length).wf.induction generalizing steps with
  | _ front ih =>
    rcases eq_or_ne front [] with rfl | hne
    · obtain ⟨rule, word, hc, hk, hcovers⟩ := choice?_of_opens h.opens
      obtain ⟨more, hslash⟩ := h.opens.slash
      obtain ⟨t, later, left, rfl, hstep, -⟩ :=
        run_cases (show Run .javascript rootState rest steps from hrun)
          (by rw [hslash]; exact List.cons_ne_nil _ _)
      refine ⟨[], t, later, rfl, rfl, fun u hu => absurd hu List.not_mem_nil, ?_⟩
      rcases hstep.chosen with ⟨other, hc', hk'⟩ | ⟨-, hc', -⟩
      · cases hc.symm.trans hc'
        exact ⟨hk'.symm.trans hk, hcovers⟩
      · cases hc.symm.trans hc'
    · obtain ⟨t, later, left, rfl, hstep, hlater⟩ :=
        run_cases hrun fun hn => hne (List.append_eq_nil_iff.1 hn).1
      obtain ⟨hk, ⟨more, rfl, -⟩ | ⟨more, -, -, hmark⟩⟩ := takes_before h hne hstep
      · obtain rfl : left = more ++ rest :=
          (List.append_cancel_left ((List.append_assoc _ _ _).symm.trans hstep.splits)).symm
        have hshort : more.length < (t.text ++ more).length := by
          have := List.length_pos_iff.2 hstep.inhabited
          rw [List.length_append]
          omega
        have hlast : ∀ c ∈ more.getLast?, c ∉ operatorMarks :=
          fun c hc => hlast c (List.mem_getLast?_append_of_mem_getLast? hc)
        obtain ⟨before, u, after, rfl, htext, hkinds, hu⟩ := ih more hshort h.past hlast hlater
        refine ⟨t :: before, u, after, rfl, by rw [textOf_cons, htext], fun v hv => ?_, hu⟩
        rcases List.mem_cons.1 hv with rfl | hv
        · exact hk
        · exact hkinds v hv
      · exact absurd (hmark _ (List.getLast?_eq_some_getLast hne))
          (hlast _ (List.getLast?_eq_some_getLast hne))

/-- **A run misses the comment** if an operator stands before it: no step ends there. -/
theorem run_no_comment (h : FirstOpens front rest)
    (hmark : ∃ c ∈ front.getLast?, c ∈ operatorMarks)
    (hrun : Run .javascript rootState (front ++ rest) (before ++ after)) :
    textOf before ≠ front := by
  induction before generalizing front with
  | nil =>
    rintro rfl
    obtain ⟨c, hc, -⟩ := hmark
    exact absurd hc (Option.not_mem_none _)
  | cons t before ih =>
    intro htext
    obtain ⟨c, hc, hmark⟩ := hmark
    have hne : front ≠ [] := List.ne_nil_of_mem (List.mem_of_mem_getLast? hc)
    obtain ⟨u, later, left, hu, hstep, hlater⟩ :=
      run_cases hrun fun hn => hne (List.append_eq_nil_iff.1 hn).1
    obtain ⟨rfl, rfl⟩ := List.cons.inj hu
    obtain ⟨-, ⟨more, rfl, hlast⟩ | ⟨more, hmore, htaken, -⟩⟩ := takes_before h hne hstep
    · obtain rfl : left = more ++ rest :=
        (List.append_cancel_left ((List.append_assoc _ _ _).symm.trans hstep.splits)).symm
      have hne : more ≠ [] := fun hn => hlast hn c hc hmark
      rw [List.getLast?_append_of_ne_nil _ hne] at hc
      exact ih h.past ⟨c, hc, hmark⟩ hlater (List.append_cancel_left htext)
    · rw [textOf_cons, htaken, List.append_assoc] at htext
      exact hmore (List.append_eq_nil_iff.1 (List.append_right_eq_self.1 htext)).1

/-! ## Tokens -/

/-- The tokens have a comment that begins at the position `i` of the text and takes what opens
there. -/
def HasComment (text : List Char) (i : Nat) (tokens : List Token) : Prop :=
  ∃ before word after, tokens = before ++ ⟨.comment, word⟩ :: after ∧
    textOf before = text.take i ∧ Covers (text.drop i) word

theorem firstOpens_of_drop {i : Nat} (hq : ∀ c ∈ text, c ∉ quoteMarks) (ho : Opens (text.drop i))
    (hf : ∀ j < i, ¬Opens (text.drop j)) : FirstOpens (text.take i) (text.drop i) := by
  refine ⟨fun c hc => hq c (List.mem_of_mem_take hc), ho, fun sooner later he hne hopens => ?_⟩
  have hpos := List.length_pos_iff.2 hne
  have hlen := congrArg List.length he
  rw [List.length_take, List.length_append] at hlen
  have hdrop : text.drop sooner.length = later ++ text.drop i := by
    conv => lhs; rw [← List.take_append_drop i text, he, List.append_assoc, List.drop_left]
  exact hf sooner.length (by omega) (hdrop ▸ hopens)

/-- **The first comment is a token**, if and only if no operator stands right before it, in a text
without quote marks: whatever names, numbers, blanks, brackets and other characters stand in front,
they end where it begins, while the rule of operators takes the opener as well. -/
theorem tokenize_comment {i : Nat} (hq : ∀ c ∈ text, c ∉ quoteMarks) (ho : Opens (text.drop i))
    (hf : ∀ j < i, ¬Opens (text.drop j)) :
    ∃ tokens, Grammar.javascript.tokenize text = .ok tokens ∧
      (HasComment text i tokens ↔ ∀ c ∈ (text.take i).getLast?, c ∉ operatorMarks) := by
  have h := firstOpens_of_drop hq ho hf
  obtain ⟨steps, hrun⟩ := run_javascript text
  have hsplit : Run .javascript rootState (text.take i ++ text.drop i) steps := by
    rwa [List.take_append_drop]
  refine ⟨coalesce steps, tokenize_eq_ok.2 ⟨steps, hrun.scan javascript_anchored, rfl⟩, ?_, ?_⟩
  · rintro ⟨before, word, after, he, htext, -⟩ c hc hmark
    obtain ⟨sooner, later, rfl, hsooner⟩ := split_of_coalesce he
    exact run_no_comment h ⟨c, hc, hmark⟩ hsplit (hsooner.trans htext)
  · intro hlast
    obtain ⟨before, t, after, rfl, htext, hkinds, hk, hcovers⟩ := run_comment h hlast hsplit
    obtain ⟨more, later, hhead⟩ := coalesce_head t after
    refine ⟨coalesce before, t.text ++ more, later, ?_, by rw [textOf_coalesce, htext],
      hcovers.append more⟩
    rw [coalesce_append fun u hu v hv => ?_, hhead, hk]
    obtain rfl : t = v := Option.some.inj hv
    rw [hk]
    exact (hkinds u (List.mem_of_mem_getLast? hu)).symm

/-- A block comment after a number, and an operator after which a line comment is not seen. -/
theorem tokenize_comment_in_line :
    (∀ c ∈ "x = 10/*\n*/+//".toList, c ∉ quoteMarks) ∧ Opens ("x = 10/*\n*/+//".toList.drop 6) ∧
    (∀ j < 6, ¬Opens ("x = 10/*\n*/+//".toList.drop j)) ∧
    ∃ tokens, Grammar.javascript.tokenize "x = 10/*\n*/+//".toList = .ok tokens ∧
      HasComment "x = 10/*\n*/+//".toList 6 tokens := by
  have hq : ∀ c ∈ "x = 10/*\n*/+//".toList, c ∉ quoteMarks := by
    simpa using show "x = 10/*\n*/+//".toList.all (· ∉ quoteMarks) = true by decide
  have ho : Opens ("x = 10/*\n*/+//".toList.drop 6) := by decide +kernel
  have hf : ∀ j < 6, ¬Opens ("x = 10/*\n*/+//".toList.drop j) := by decide +kernel
  obtain ⟨tokens, htokens, hiff⟩ := tokenize_comment hq ho hf
  refine ⟨hq, ho, hf, tokens, htokens, hiff.2 fun c hc => ?_⟩
  obtain rfl : '0' = c := Option.some.inj hc
  decide

/-- **A comment that is not seen**: the operator before it goes on with the opener. -/
theorem comment_lost_in_operators :
    (∀ c ∈ "+//".toList, c ∉ quoteMarks) ∧ Opens ("+//".toList.drop 1) ∧
    (∀ j < 1, ¬Opens ("+//".toList.drop j)) ∧
    ¬∃ tokens, Grammar.javascript.tokenize "+//".toList = .ok tokens ∧
      HasComment "+//".toList 1 tokens := by
  have hq : ∀ c ∈ "+//".toList, c ∉ quoteMarks := by
    simpa using show "+//".toList.all (· ∉ quoteMarks) = true by decide
  have ho : Opens ("+//".toList.drop 1) := by decide
  have hf : ∀ j < 1, ¬Opens ("+//".toList.drop j) := by decide
  refine ⟨hq, ho, hf, ?_⟩
  rintro ⟨tokens, htokens, before, word, after, rfl, htext, -⟩
  obtain ⟨steps, hrun⟩ := run_javascript "+//".toList
  obtain ⟨scanned, hscan, he⟩ := tokenize_eq_ok.1 htokens
  obtain rfl : steps = scanned := Except.ok.inj ((hrun.scan javascript_anchored).symm.trans hscan)
  obtain ⟨sooner, later, rfl, hsooner⟩ := split_of_coalesce he.symm
  exact run_no_comment (firstOpens_of_drop hq ho hf) ⟨'+', rfl, by decide⟩ hrun
    (hsooner.trans htext)

end LiterateSite.Highlight
