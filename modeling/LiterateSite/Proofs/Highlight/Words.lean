import Mathlib.Data.List.TakeWhile
import LiterateSite.Proofs.Highlight.Rules
import LiterateSite.Proofs.Pattern.Repeat

/-!
# Words of JavaScript

* `matchAt?_wordAmong`, `matchAt?_wordAmong_none`: **one of several words up to a word edge** is the
  longest run of word characters, or nothing.
* `choice?_of_nameStart`: a text that begins like a name is taken by the rule of keywords, of
  constants or of names.
* `tokenize_reserved`, `tokenize_name`: **the first token** is the longest run of word characters if
  that is a reserved word, and else the whole identifier.
* `tokenize_word`: **a word is one token** of the right kind. The one exception is a word that goes
  on with `$` after a reserved word, as `in$`: there the reserved word is cut off.
-/

namespace LiterateSite.Highlight

open CharSet Pattern
open Grammar (rootState)
open Text (isWord isAsciiWord)

variable {word : String} {words : List String} {cur next : Cursor} {c : Char}
variable {text rest : List Char}

/-! ## One of several words -/

/-- The words consist of word characters. -/
def AreWords (words : List String) : Prop :=
  ∀ w ∈ words, w.toList ≠ [] ∧ ∀ c ∈ w.toList, isWord c = true

/-- Where a word may end: the text goes on with one of the words, and no word character follows. -/
theorem mem_ends_wordAmong (hw : AreWords words) (h : next ∈ (wordAmong words).ends cur) :
    ∃ word ∈ words, next = cur.past word.toList ∧ cur.rest.takeWhile isWord = word.toList := by
  obtain ⟨mid, hm, hn⟩ := List.mem_flatMap.1 (Cursor.mem_of_mem_distinct h)
  obtain ⟨p, hp, hm⟩ := mem_ends_altAll hm
  obtain ⟨word, hword, rfl⟩ := List.mem_map.1 hp
  rw [ends_literal] at hm
  split at hm
  · rename_i hpre
    obtain ⟨rest, hr⟩ := hpre
    rw [List.mem_singleton.1 hm] at hn
    unfold ends at hn
    split at hn
    · rename_i hedge
      refine ⟨word, hword, List.mem_singleton.1 hn, ?_⟩
      rw [wordEdge_past (hw word hword).1 (hw word hword).2 hr.symm] at hedge
      rw [← hr, List.takeWhile_append_of_pos (hw word hword).2]
      cases rest with
      | nil => exact List.append_nil _
      | cons c rest => rw [List.takeWhile_cons_of_neg (by simpa using hedge), List.append_nil]
    · exact absurd hn List.not_mem_nil
  · exact absurd hm List.not_mem_nil

/-- The alternatives have the place after the word. -/
theorem past_mem_ends_words (hword : word ∈ words) (hpre : word.toList <+: cur.rest) :
    cur.past word.toList ∈ (altAll (words.map literal)).ends cur := by
  have hmem : cur.past word.toList ∈ (literal word).ends cur := by
    rw [ends_literal, if_pos hpre]
    exact List.mem_singleton_self _
  obtain ⟨c, hc, he⟩ := exists_mem_ends_altAll (List.mem_map_of_mem hword) hmem
  obtain ⟨p, hp, hother⟩ := mem_ends_altAll hc
  obtain ⟨other, -, rfl⟩ := List.mem_map.1 hp
  rw [ends_literal] at hother
  split at hother
  · rename_i hpre'
    -- two beginnings of the text that are of one length
    have hlen : other.toList.length = word.toList.length := by
      rw [List.mem_singleton.1 hother, Cursor.past_consumed, Cursor.past_consumed] at he
      omega
    have hsame : other.toList = word.toList := by
      rw [List.prefix_iff_eq_take.1 hpre', List.prefix_iff_eq_take.1 hpre, hlen]
    rwa [← hsame, ← List.mem_singleton.1 hother]
  · exact absurd hother List.not_mem_nil

/-- **One of several words** is matched if the longest run of word characters is one. -/
theorem matchAt?_wordAmong (hw : AreWords words) (hword : word ∈ words)
    (ht : cur.rest.takeWhile isWord = word.toList) :
    (wordAmong words).matchAt? cur = some (cur.past word.toList) := by
  have hr : cur.rest = word.toList ++ cur.rest.dropWhile isWord := by
    rw [← ht, List.takeWhile_append_dropWhile]
  have hall : ∀ next ∈ (wordAmong words).ends cur, next = cur.past word.toList := by
    intro next hn
    obtain ⟨other, -, rfl, ho⟩ := mem_ends_wordAmong hw hn
    rw [← ho, ht]
  have hedge : (Assertion.wordEdge false).holds (cur.past word.toList) = true := by
    rw [wordEdge_past (hw word hword).1 (hw word hword).2 hr]
    have hhead := List.head?_dropWhile_not isWord cur.rest
    cases hd : (cur.rest.dropWhile isWord).head? with
    | none => rfl
    | some d =>
      rw [hd] at hhead
      simpa using hhead
  have hpast : cur.past word.toList ∈ (look (.wordEdge false)).ends (cur.past word.toList) := by
    unfold ends
    rw [if_pos hedge]
    exact List.mem_singleton_self _
  obtain ⟨d, hd, -⟩ := Cursor.exists_mem_distinct
    (List.mem_flatMap.2 ⟨_, past_mem_ends_words hword ⟨_, hr.symm⟩, hpast⟩)
  obtain ⟨first, others, he⟩ := List.exists_cons_of_ne_nil
    (List.ne_nil_of_mem (show d ∈ (wordAmong words).ends cur from hd))
  unfold matchAt?
  rw [he, List.head?_cons, hall first (by rw [he]; exact List.mem_cons_self)]

/-- Otherwise nothing is. -/
theorem matchAt?_wordAmong_none (hw : AreWords words)
    (hn : ∀ word ∈ words, cur.rest.takeWhile isWord ≠ word.toList) :
    (wordAmong words).matchAt? cur = none := by
  refine List.head?_eq_none_iff.2 (List.eq_nil_iff_forall_not_mem.2 fun next h => ?_)
  obtain ⟨word, hword, -, he⟩ := mem_ends_wordAmong hw h
  exact hn word hword he

theorem begins_literal (s : String) (c : Char) :
    (literal s).begins c = decide (s.toList.head? = some c) := by
  unfold literal
  cases s.toList with
  | nil => rfl
  | cons d cs =>
    have hd : (single d).contains c = decide ((d :: cs).head? = some c) := by
      rw [contains_single]
      exact decide_eq_decide.2 ⟨fun h => by rw [h]; rfl, fun h => (Option.some.inj h).symm⟩
    cases cs with
    | nil => exact hd
    | cons e cs =>
      show ((single d).contains c || (false && _)) = _
      rw [Bool.false_and, Bool.or_false, hd]

theorem begins_altAll (ps : List Pattern) (c : Char) :
    (altAll ps).begins c = ps.any (·.begins c) := by
  induction ps with
  | nil => rfl
  | cons p ps ih =>
    cases ps with
    | nil => exact (Bool.or_false _).symm
    | cons q ps => exact congrArg (p.begins c || ·) ih

/-- Only a word character begins one of the words. -/
theorem isWord_of_begins (hw : AreWords words) (h : (wordAmong words).begins c = true) :
    isWord c = true := by
  have hb : (altAll (words.map literal)).begins c = true := by
    have h : ((altAll (words.map literal)).begins c || (_ && false)) = true := h
    rwa [Bool.and_false, Bool.or_false] at h
  rw [begins_altAll, List.any_map, List.any_eq_true] at hb
  obtain ⟨word, hword, hb⟩ := hb
  have hhead : decide (word.toList.head? = some c) = true := begins_literal word c ▸ hb
  exact (hw word hword).2 c (List.mem_of_mem_head? (of_decide_eq_true hhead))

/-! ## The rules for words -/

/-- A reserved word: a keyword or the name of a constant. -/
def reservedWords : List String := javascriptKeywords ++ javascriptConstants

/-- The kind of a word on its own. -/
def kindOfWord (word : String) : TokenKind :=
  if word ∈ javascriptKeywords then .keyword
  else if word ∈ javascriptConstants then .keywordConstant
  else .name

/-- An identifier of ASCII characters: letters, digits, `_` and `$`, with no digit in front. -/
structure IsIdentifier (word : List Char) : Prop where
  inhabited : word ≠ []
  letters : ∀ c ∈ word, isAsciiWord c = true ∨ c = '$'
  first : ∀ c ∈ word.head?, c.isDigit = false

instance (word : List Char) : Decidable (IsIdentifier word) :=
  decidable_of_iff (word ≠ [] ∧ word.all (fun c => isAsciiWord c || c == '$') = true ∧
      word.head?.all (!·.isDigit) = true)
    ⟨fun ⟨h, h', h''⟩ =>
      ⟨h, by simpa using h', by simpa [Option.all_eq_true] using h''⟩,
      fun h => ⟨h.inhabited, by simpa using h.letters,
        by simpa [Option.all_eq_true] using h.first⟩⟩

def keywordRule : Rule := .anchored (wordAmong javascriptKeywords) .keyword

def constantRule : Rule := .anchored (wordAmong javascriptConstants) .keywordConstant

def nameRule : Rule := .anchored (seq (one nameStart) (star true (one namePart))) .name

theorem areWords_of_all (h : ∀ w ∈ words, w.toList ≠ [] ∧ w.toList.all isWord = true) :
    AreWords words :=
  fun w hw => ⟨(h w hw).1, List.all_eq_true.1 (h w hw).2⟩

theorem keywords_areWords : AreWords javascriptKeywords := areWords_of_all (by decide)

theorem constants_areWords : AreWords javascriptConstants := areWords_of_all (by decide)

theorem reserved_isIdentifier : ∀ word ∈ reservedWords, IsIdentifier word.toList := by decide

theorem isAsciiWord_iff (c : Char) :
    isAsciiWord c = true ↔ 65 ≤ c.toNat ∧ c.toNat ≤ 90 ∨ 97 ≤ c.toNat ∧ c.toNat ≤ 122 ∨
      48 ≤ c.toNat ∧ c.toNat ≤ 57 ∨ c.toNat = 95 := by
  delta isAsciiWord Char.isAlphanum Char.isAlpha Char.isUpper Char.isLower Char.isDigit
  simp only [Bool.or_eq_true, Bool.and_eq_true, decide_eq_true_eq, beq_iff_eq, ge_iff_le,
    UInt32.le_iff_toNat_le, ← Char.toNat_inj, Char.toNat, Char.reduceVal, UInt32.reduceToNat,
    or_assoc]

theorem nameStart_iff (c : Char) :
    nameStart.contains c = true ↔ (isAsciiWord c = true ∨ c = '$') ∧ c.isDigit = false := by
  have hsingle (a : Char) : (single a).contains c = true ↔ c.toNat = a.toNat := by
    rw [contains_single, decide_eq_true_iff, Char.toNat_inj]
  rw [nameStart, contains_unionAll, isAsciiWord_iff, ← Char.toNat_inj]
  simp only [List.any_cons, List.any_nil, Bool.or_false, Bool.or_eq_true, hsingle]
  simp only [CharSet.contains, Char.isDigit, Bool.and_eq_true, decide_eq_true_eq,
    UInt32.le_iff_toNat_le, Bool.and_eq_false_iff, decide_eq_false_iff_not, ge_iff_le, Char.toNat,
    Char.reduceVal, UInt32.reduceToNat]
  omega

theorem lt_of_isAsciiWord (h : isAsciiWord c = true) : c.toNat < 128 := by
  rw [isAsciiWord_iff] at h
  omega

theorem isWord_of_isAsciiWord (h : isAsciiWord c = true) : isWord c = true := by
  unfold isWord
  rw [if_pos (lt_of_isAsciiWord h), h]

theorem namePart_iff (c : Char) : namePart.contains c = true ↔ isWord c = true ∨ c = '$' := by
  show (isWord c || (single '$').contains c) = true ↔ _
  rw [contains_single, Bool.or_eq_true_iff, decide_eq_true_iff]

/-- The rules in front of those for words do not begin like a name. -/
theorem not_begins_of_nameStart (h : nameStart.contains c = true) :
    ∀ rule ∈ javascriptRules.take 7, rule.pattern.begins c = false := by
  have hall : ∀ n < 128, nameStart.contains (Char.ofNat n) = true →
      ∀ rule ∈ javascriptRules.take 7, rule.pattern.begins (Char.ofNat n) = false := by
    decide +kernel
  have hlt : c.toNat < 128 := by
    rcases ((nameStart_iff c).1 h).1 with hc | rfl
    · exact lt_of_isAsciiWord hc
    · decide
  have hc := hall c.toNat hlt
  rw [Char.ofNat_toNat] at hc
  exact hc h

/-- **A text that begins like a name** is taken by the rule of keywords, of constants or of
names. -/
theorem choice?_of_nameStart (h : nameStart.contains c = true) (rest : List Char) :
    choice? javascriptRules (c :: rest) =
      choice? ([keywordRule, constantRule, nameRule] ++ javascriptRules.drop 10) (c :: rest) := by
  have hrules : javascriptRules = javascriptRules.take 7 ++
      ([keywordRule, constantRule, nameRule] ++ javascriptRules.drop 10) := rfl
  rw [hrules, choice?_append (not_begins_of_nameStart h)]
  rfl

/-- The rule of some words takes the longest run of word characters if it is one of them. -/
theorem word?_wordAmong {kind : TokenKind} (hw : AreWords words) (hword : word ∈ words)
    (ht : text.takeWhile isWord = word.toList) :
    (Rule.anchored (wordAmong words) kind).word? text = some word.toList :=
  Rule.word?_of_past rfl (matchAt?_wordAmong hw hword ht)
    (show text = word.toList ++ text.dropWhile isWord by rw [← ht, List.takeWhile_append_dropWhile])
    (hw word hword).1

theorem word?_wordAmong_none {kind : TokenKind} (hw : AreWords words)
    (hn : ∀ word ∈ words, text.takeWhile isWord ≠ word.toList) :
    (Rule.anchored (wordAmong words) kind).word? text = none :=
  Rule.word?_of_none rfl (matchAt?_wordAmong_none hw hn)

/-- The rule of names takes the whole identifier. -/
theorem word?_nameRule {name : List Char} (hw : IsIdentifier name)
    (hr : ∀ c ∈ rest.head?, isWord c = false ∧ c ≠ '$') :
    nameRule.word? (name ++ rest) = some name := by
  obtain ⟨c, more, rfl⟩ := List.exists_cons_of_ne_nil hw.inhabited
  have hstart : nameStart.contains c = true :=
    (nameStart_iff c).2 ⟨hw.letters c List.mem_cons_self, hw.first c rfl⟩
  have hfirst : (one nameStart).matchAt? (.start (c :: (more ++ rest))) =
      some ((Cursor.start (c :: (more ++ rest))).advance c (more ++ rest)) := by
    unfold matchAt?
    rw [ends_one_cons rfl, if_pos hstart]
    rfl
  refine Rule.word?_of_past rfl (matchAt?_seq hfirst (matchAt?_star_one (fun d hd => ?_)
    (fun d hd => ?_) rfl)) rfl (List.cons_ne_nil _ _)
  · rw [namePart_iff]
    exact (hw.letters d (List.mem_cons_of_mem _ hd)).imp isWord_of_isAsciiWord id
  · rw [Bool.eq_false_iff, Ne, namePart_iff, not_or, (hr d hd).1]
    exact ⟨Bool.false_ne_true, (hr d hd).2⟩

/-! ## Tokens -/

/-- The rule of a kind of words begins with a word character, or with `$` if it is that of names. -/
theorem letter_of_begins {rule : Rule} (h : rule ∈ javascriptRules)
    (hb : rule.pattern.begins c = true) :
    (rule.kind = .keyword ∨ rule.kind = .keywordConstant → isWord c = true) ∧
      (rule.kind = .name → isWord c = true ∨ c = '$') := by
  have hbound (p : Pattern) (kind : TokenKind) :
      (Rule.anchored p kind).pattern.begins c = p.begins c := by
    show (false || (true && p.begins c)) = _
    rw [Bool.false_or, Bool.true_and]
  refine ⟨fun hk => ?_, fun hk => ?_⟩
  · have hrules :
        javascriptRules.filter (fun r => r.kind == .keyword || r.kind == .keywordConstant) =
          [keywordRule, constantRule] := rfl
    have hm : rule ∈ [keywordRule, constantRule] := by
      rw [← hrules]
      exact List.mem_filter.2 ⟨h, by simpa using hk⟩
    rcases List.mem_cons.1 hm with rfl | hm
    · exact isWord_of_begins keywords_areWords (hbound _ _ ▸ hb)
    · obtain rfl := List.mem_singleton.1 hm
      exact isWord_of_begins constants_areWords (hbound _ _ ▸ hb)
  · have hm : rule ∈ javascriptRules.filter (·.kind == .name) :=
      List.mem_filter.2 ⟨h, beq_iff_eq.2 hk⟩
    rw [show javascriptRules.filter (·.kind == .name) = [nameRule] from rfl] at hm
    obtain rfl := List.mem_singleton.1 hm
    have hstart : nameStart.contains c = true := by
      have hb : (nameStart.contains c || (false && _)) = true := hbound _ _ ▸ hb
      rwa [Bool.false_and, Bool.or_false] at hb
    exact ((nameStart_iff c).1 hstart).1.imp isWord_of_isAsciiWord id

theorem kindOfWord_reserved (h : word ∈ reservedWords) :
    kindOfWord word = .keyword ∨ kindOfWord word = .keywordConstant := by
  unfold kindOfWord
  split
  · exact Or.inl rfl
  · rename_i hk
    rw [if_pos ((List.mem_append.1 h).resolve_left hk)]
    exact Or.inr rfl

/-- The reserved word is what the rules take. -/
theorem choice?_reserved (hword : word ∈ reservedWords)
    (ht : text.takeWhile isWord = word.toList) :
    ∃ rule, choice? javascriptRules text = some (rule, word.toList) ∧
      rule.kind = kindOfWord word ∧ rule.next = none := by
  obtain ⟨c, more, hc⟩ :=
    List.exists_cons_of_ne_nil (reserved_isIdentifier word hword).inhabited
  have hstart : nameStart.contains c = true := by
    have hi := reserved_isIdentifier word hword
    rw [hc] at hi
    exact (nameStart_iff c).2 ⟨hi.letters c List.mem_cons_self, hi.first c rfl⟩
  obtain ⟨rest, rfl⟩ : ∃ rest, text = c :: rest := by
    refine ⟨more ++ text.dropWhile isWord, ?_⟩
    rw [← List.cons_append, ← hc, ← ht, List.takeWhile_append_dropWhile]
  rw [choice?_of_nameStart hstart, List.cons_append, choice?_cons]
  unfold kindOfWord
  by_cases hk : word ∈ javascriptKeywords
  · refine ⟨keywordRule, ?_, (if_pos hk).symm, rfl⟩
    rw [keywordRule, word?_wordAmong keywords_areWords hk ht]
    rfl
  · have hconst : word ∈ javascriptConstants := (List.mem_append.1 hword).resolve_left hk
    refine ⟨constantRule, ?_, by rw [if_neg hk, if_pos hconst]; rfl, rfl⟩
    rw [keywordRule, word?_wordAmong_none keywords_areWords fun other ho he => hk ?_,
      List.cons_append, choice?_cons, constantRule, word?_wordAmong constants_areWords hconst ht]
    · rfl
    · rwa [String.toList_inj.1 (ht.symm.trans he)]

/-- **A reserved word** that no word character follows is the first token. -/
theorem tokenize_reserved (hword : word ∈ reservedWords)
    (ht : text.takeWhile isWord = word.toList) :
    ∃ later, Grammar.javascript.tokenize text =
      .ok (⟨kindOfWord word, word.toList⟩ :: later) := by
  obtain ⟨rule, hc, hk, hn⟩ := choice?_reserved hword ht
  have happ : text = word.toList ++ text.dropWhile isWord := by
    rw [← ht, List.takeWhile_append_dropWhile]
  obtain ⟨steps, hrun⟩ := run_javascript (text.dropWhile isWord)
  have hfirst : Run .javascript rootState text (⟨rule.kind, word.toList⟩ :: steps) :=
    .rule rules?_javascript hc happ (by rw [hn]; exact hrun)
  rw [hk] at hfirst
  refine ⟨_, tokenize_cons javascript_anchored hfirst fun u hu hku => ?_⟩
  -- a step of the same kind would begin with a word character
  obtain ⟨others, rfl⟩ := List.head?_eq_some_iff.1 hu
  have hstop := List.head?_dropWhile_not isWord text
  revert hrun hstop
  cases text.dropWhile isWord with
  | nil => exact fun hrun => absurd hrun.length_le (Nat.not_succ_le_zero _)
  | cons c rest =>
    intro hrun hstop
    have hnot : isWord c = false := by simpa using hstop
    have hkind : u.kind = .keyword ∨ u.kind = .keywordConstant := hku ▸ kindOfWord_reserved hword
    rcases hrun.kind_of_head rules?_javascript with hu | ⟨other, hm, hko, hb⟩
    · rw [hu] at hkind
      rcases hkind with h | h <;> cases h
    · rw [← hko] at hkind
      rw [(letter_of_begins hm hb).1 hkind] at hnot
      cases hnot

/-- **An identifier** whose run of word characters is not reserved is the first token. -/
theorem tokenize_name {name : List Char} (hw : IsIdentifier name)
    (hr : ∀ c ∈ rest.head?, isWord c = false ∧ c ≠ '$')
    (hn : ∀ word ∈ reservedWords, (name ++ rest).takeWhile isWord ≠ word.toList) :
    ∃ later, Grammar.javascript.tokenize (name ++ rest) = .ok (⟨.name, name⟩ :: later) := by
  have hc : choice? javascriptRules (name ++ rest) = some (nameRule, name) := by
    have hword := word?_nameRule hw hr
    obtain ⟨c, more, rfl⟩ := List.exists_cons_of_ne_nil hw.inhabited
    have hstart : nameStart.contains c = true :=
      (nameStart_iff c).2 ⟨hw.letters c List.mem_cons_self, hw.first c rfl⟩
    have hkeyword : keywordRule.word? (c :: more ++ rest) = none :=
      word?_wordAmong_none keywords_areWords fun word h => hn word (List.mem_append_left _ h)
    have hconstant : constantRule.word? (c :: more ++ rest) = none :=
      word?_wordAmong_none constants_areWords fun word h => hn word (List.mem_append_right _ h)
    rw [List.cons_append] at hkeyword hconstant hword ⊢
    rw [choice?_of_nameStart hstart, List.cons_append, choice?_cons, hkeyword, List.cons_append,
      choice?_cons, hconstant, List.cons_append, choice?_cons, hword]
    rfl
  obtain ⟨steps, hrun⟩ := run_javascript rest
  have hfirst : Run .javascript rootState (name ++ rest) (⟨.name, name⟩ :: steps) :=
    .rule rules?_javascript hc rfl hrun
  refine ⟨_, tokenize_cons javascript_anchored hfirst fun u hu hku => ?_⟩
  obtain ⟨others, rfl⟩ := List.head?_eq_some_iff.1 hu
  cases rest with
  | nil => exact absurd hrun.length_le (Nat.not_succ_le_zero _)
  | cons c rest =>
    rcases hrun.kind_of_head rules?_javascript with hu | ⟨other, hm, hko, hb⟩
    · rw [hu] at hku
      cases hku
    · rcases (letter_of_begins hm hb).2 (hko.trans hku) with h | h
      · rw [(hr c rfl).1] at h
        cases h
      · exact (hr c rfl).2 h

/-! ## Words with and without `$` -/

theorem dollar_not_mem_reserved : ∀ word ∈ reservedWords, '$' ∉ word.toList := by decide

theorem takeWhile_of_not_mem {name : List Char} (h : '$' ∉ name) (rest : List Char) :
    (name ++ '$' :: rest).takeWhile (· ≠ '$') = name := by
  have hname : ∀ c ∈ name, decide (c ≠ '$') = true :=
    fun c hc => decide_eq_true (ne_of_mem_of_not_mem hc h)
  rw [List.takeWhile_append_of_pos hname]
  exact (congrArg (name ++ ·) (List.takeWhile_cons_of_neg (by decide))).trans (List.append_nil _)

/-- A word that no `$` follows is the whole text. -/
theorem eq_of_takeWhile {front : List Char} (he : text.takeWhile (· ≠ '$') = front)
    (hno : ¬front ++ ['$'] <+: text) : text = front := by
  have happ : front ++ text.dropWhile (· ≠ '$') = text := by
    rw [← he]
    exact List.takeWhile_append_dropWhile
  have hdollar := List.head?_dropWhile_not (fun c : Char => decide (c ≠ '$')) text
  cases hd : text.dropWhile (· ≠ '$') with
  | nil => rw [← happ, hd, List.append_nil]
  | cons c more =>
    rw [hd] at hdollar happ
    obtain rfl : c = '$' := by simpa using hdollar
    exact absurd ⟨more, by rw [← happ, List.append_assoc]; rfl⟩ hno

/-- The longest run of word characters ends before the first `$` of the word. -/
theorem takeWhile_isWord {name : List Char} (hw : IsIdentifier name)
    (hr : ∀ c ∈ rest.head?, isWord c = false ∧ c ≠ '$') :
    (name ++ rest).takeWhile isWord = name.takeWhile (· ≠ '$') := by
  have hrun : ∀ c ∈ name.takeWhile (· ≠ '$'), isWord c = true := by
    intro c hc
    rcases hw.letters c ((List.takeWhile_prefix _).subset hc) with h | rfl
    · exact isWord_of_isAsciiWord h
    · exact absurd (List.mem_takeWhile_imp hc) (by decide)
  have hstop : (name.dropWhile (· ≠ '$') ++ rest).takeWhile isWord = [] := by
    have hdollar := List.head?_dropWhile_not (fun c : Char => decide (c ≠ '$')) name
    cases hd : name.dropWhile (· ≠ '$') with
    | nil =>
      cases rest with
      | nil => rfl
      | cons c rest =>
        exact List.takeWhile_cons_of_neg (by rw [(hr c rfl).1]; exact Bool.false_ne_true)
    | cons c more =>
      rw [hd] at hdollar
      obtain rfl : c = '$' := by simpa using hdollar
      exact List.takeWhile_cons_of_neg (by decide)
  have happ : name ++ rest =
      name.takeWhile (· ≠ '$') ++ (name.dropWhile (· ≠ '$') ++ rest) := by
    rw [← List.append_assoc, List.takeWhile_append_dropWhile]
  rw [happ, List.takeWhile_append_of_pos hrun, hstop, List.append_nil]

/-- **A word is one token.** An identifier that neither a word character nor `$` follows is the
first token, and its kind is that of the word, unless a reserved word and `$` begin it; then the
reserved word is the first token. -/
theorem tokenize_word (hw : IsIdentifier word.toList)
    (hr : ∀ c ∈ rest.head?, isWord c = false ∧ c ≠ '$') :
    ((∀ reserved ∈ reservedWords, ¬reserved.toList ++ ['$'] <+: word.toList) →
      ∃ later, Grammar.javascript.tokenize (word.toList ++ rest) =
        .ok (⟨kindOfWord word, word.toList⟩ :: later)) ∧
    ∀ reserved ∈ reservedWords, reserved.toList ++ ['$'] <+: word.toList →
      ∃ later, Grammar.javascript.tokenize (word.toList ++ rest) =
        .ok (⟨kindOfWord reserved, reserved.toList⟩ :: later) := by
  have hrun := takeWhile_isWord hw hr
  refine ⟨fun hno => ?_, fun reserved hm hpre => ?_⟩
  · by_cases hres : ∃ reserved ∈ reservedWords, word.toList.takeWhile (· ≠ '$') = reserved.toList
    · obtain ⟨reserved, hm, he⟩ := hres
      obtain rfl : word = reserved := String.toList_inj.1 (eq_of_takeWhile he (hno reserved hm))
      exact tokenize_reserved hm (hrun.trans he)
    · have hnone : ∀ reserved ∈ reservedWords,
          (word.toList ++ rest).takeWhile isWord ≠ reserved.toList :=
        fun reserved hm he => hres ⟨reserved, hm, hrun.symm.trans he⟩
      have hnot : word ∉ reservedWords := fun hm => hres ⟨word, hm,
        List.takeWhile_eq_self_iff.2 fun c hc =>
          decide_eq_true (ne_of_mem_of_not_mem hc (dollar_not_mem_reserved word hm))⟩
      have hkind : kindOfWord word = .name := by
        unfold kindOfWord
        rw [if_neg fun h => hnot (List.mem_append_left _ h),
          if_neg fun h => hnot (List.mem_append_right _ h)]
      rw [hkind]
      exact tokenize_name hw hr hnone
  · obtain ⟨more, hmore⟩ := hpre
    refine tokenize_reserved hm (hrun.trans ?_)
    rw [← hmore, List.append_assoc]
    exact takeWhile_of_not_mem (dollar_not_mem_reserved reserved hm) more

/-- A name that a keyword begins, and a keyword with `$` after it. -/
theorem tokenize_word_two :
    IsIdentifier "constant".toList ∧ IsIdentifier "in$x".toList ∧
    (∀ c ∈ ";".toList.head?, isWord c = false ∧ c ≠ '$') ∧
    (∃ later, Grammar.javascript.tokenize "constant;".toList =
      .ok (⟨.name, "constant".toList⟩ :: later)) ∧
    ∃ later, Grammar.javascript.tokenize "in$x;".toList =
      .ok (⟨.keyword, "in".toList⟩ :: later) := by
  have hr : ∀ c ∈ ";".toList.head?, isWord c = false ∧ c ≠ '$' := by
    intro c hc
    obtain rfl : ';' = c := Option.some.inj hc
    decide
  have hconstant : IsIdentifier "constant".toList := by decide
  have hin : IsIdentifier "in$x".toList := by decide
  exact ⟨hconstant, hin, hr, (tokenize_word hconstant hr).1 (by decide),
    (tokenize_word hin hr).2 "in" (by decide) (by decide)⟩

/-- **A word that is cut in two.** `$` is a character of names, but no word character: for the rule
of keywords `in$` is the keyword `in` up to a word edge, and what is left of the word is another
token. The word on its own is a name. -/
theorem tokenize_word_cut :
    IsIdentifier "in$".toList ∧ kindOfWord "in$" = .name ∧
      ¬∃ later, Grammar.javascript.tokenize "in$".toList =
        .ok (⟨kindOfWord "in$", "in$".toList⟩ :: later) := by
  refine ⟨by decide, by decide, fun ⟨later, h⟩ => ?_⟩
  obtain ⟨others, hcut⟩ := tokenize_reserved (show "in" ∈ reservedWords by decide)
    (show "in$".toList.takeWhile isWord = _ by decide)
  rw [hcut] at h
  exact absurd (List.cons.inj (Except.ok.inj h)).1 (by decide)

end LiterateSite.Highlight
