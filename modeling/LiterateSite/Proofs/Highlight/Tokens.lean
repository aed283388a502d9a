import Mathlib.Data.List.Chain
import LiterateSite.Highlight.Highlighter

/-!
# The tokens of a text

* `textOf_coalesce`, `splits_scan`: no character is lost, added or moved.
* `Alternating`, `coalesce_alternating`: no two neighbours are of one kind.
* `Splits`, `splits_tokenize`: **the tokens of a text cover it, none is empty, and no two neighbours
  are of one kind**, for every grammar.
-/

namespace LiterateSite.Highlight

/-- No two neighbours are of one kind. -/
def Alternating (tokens : List Token) : Prop := tokens.IsChain fun t u => t.kind ≠ u.kind

/-- The tokens cover the text, none is empty, and no two neighbours are of one kind. -/
structure Splits (text : List Char) (tokens : List Token) : Prop where
  covers : textOf tokens = text
  inhabited : ∀ t ∈ tokens, t.text ≠ []
  alternating : Alternating tokens

variable {tokens : List Token} {t : Token}

@[simp] theorem textOf_nil : textOf [] = [] := rfl

@[simp] theorem textOf_cons (t : Token) (tokens : List Token) :
    textOf (t :: tokens) = t.text ++ textOf tokens := rfl

@[simp] theorem textOf_append (before after : List Token) :
    textOf (before ++ after) = textOf before ++ textOf after := List.flatMap_append

/-! ## Merging neighbours -/

theorem attach_same {u : Token} (h : t.kind = u.kind) (rest : List Token) :
    t.attach (u :: rest) = ⟨u.kind, t.text ++ u.text⟩ :: rest := by
  show (if t.kind = u.kind then _ else _) = _
  rw [if_pos h]

theorem attach_other {u : Token} (h : t.kind ≠ u.kind) (rest : List Token) :
    t.attach (u :: rest) = t :: u :: rest := by
  show (if t.kind = u.kind then _ else _) = _
  rw [if_neg h]

theorem textOf_attach (t : Token) (tokens : List Token) :
    textOf (t.attach tokens) = t.text ++ textOf tokens := by
  cases tokens with
  | nil => rfl
  | cons u rest =>
    by_cases hk : t.kind = u.kind
    · rw [attach_same hk, textOf_cons, textOf_cons, List.append_assoc]
    · rw [attach_other hk, textOf_cons]

/-- **Merging** keeps the text. -/
theorem textOf_coalesce (tokens : List Token) : textOf (coalesce tokens) = textOf tokens := by
  induction tokens with
  | nil => rfl
  | cons t rest ih => rw [coalesce, textOf_attach, ih, textOf_cons]

theorem attach_alternating (t : Token) (h : Alternating tokens) :
    Alternating (t.attach tokens) := by
  cases tokens with
  | nil => exact List.isChain_singleton t
  | cons u rest =>
    by_cases hk : t.kind = u.kind
    · -- the merged token has the kind of the one that it takes in
      rw [attach_same hk]
      exact List.isChain_cons.2 (List.isChain_cons.1 h)
    · rw [attach_other hk]
      exact List.isChain_cons_cons.2 ⟨hk, h⟩

/-- **After merging** no two neighbours are of one kind. -/
theorem coalesce_alternating (tokens : List Token) : Alternating (coalesce tokens) := by
  induction tokens with
  | nil => exact List.isChain_nil
  | cons t rest ih => exact attach_alternating t ih

theorem attach_inhabited (ht : t.text ≠ []) (h : ∀ u ∈ tokens, u.text ≠ []) :
    ∀ u ∈ t.attach tokens, u.text ≠ [] := by
  cases tokens with
  | nil =>
    intro u hu
    rwa [List.mem_singleton.1 hu]
  | cons v rest =>
    by_cases hk : t.kind = v.kind
    · rw [attach_same hk]
      intro u hu
      rcases List.mem_cons.1 hu with rfl | hu
      · exact fun h' => ht (List.append_eq_nil_iff.1 h').1
      · exact h u (List.mem_cons_of_mem _ hu)
    · rw [attach_other hk]
      intro u hu
      rcases List.mem_cons.1 hu with rfl | hu
      · exact ht
      · exact h u hu

theorem coalesce_inhabited (h : ∀ t ∈ tokens, t.text ≠ []) :
    ∀ t ∈ coalesce tokens, t.text ≠ [] := by
  induction tokens with
  | nil => exact h
  | cons t rest ih =>
    exact attach_inhabited (h t List.mem_cons_self)
      (ih fun u hu => h u (List.mem_cons_of_mem _ hu))

/-! ## Steps of a grammar -/

/-- The text of a step is not empty, and the tokens of a scan are those of its steps. -/
theorem scan_cons {g : Grammar} {state : String} {c : Char} {cs : List Char}
    (h : g.scan state (c :: cs) = .ok tokens) :
    ∃ rules later, g.rules? state = some rules ∧
      g.scan (stepOf state (c :: cs) rules).state
        ((c :: cs).drop (stepOf state (c :: cs) rules).length) = .ok later ∧
      tokens = ⟨(stepOf state (c :: cs) rules).kind,
        (c :: cs).take (stepOf state (c :: cs) rules).length⟩ :: later := by
  rw [Grammar.scan] at h
  cases hr : g.rules? state with
  | none => simp [hr] at h
  | some rules =>
    simp only [hr] at h
    cases hl : g.scan (stepOf state (c :: cs) rules).state
        ((c :: cs).drop (stepOf state (c :: cs) rules).length) with
    | error e => simp [hl] at h
    | ok later =>
      rw [hl] at h
      exact ⟨rules, later, rfl, hl, (Except.ok.inj h).symm⟩

/-- **A scan** covers the text by tokens that are not empty. -/
theorem splits_scan (g : Grammar) (state : String) (text : List Char) :
    ∀ tokens, g.scan state text = .ok tokens →
      textOf tokens = text ∧ ∀ t ∈ tokens, t.text ≠ [] := by
  -- on the length of the text, of which every step takes at least one character
  induction text using (measure List.length).wf.induction generalizing state with
  | _ text ih =>
    intro tokens h
    cases text with
    | nil =>
      rw [Grammar.scan] at h
      rw [← Except.ok.inj h]
      exact ⟨rfl, fun t ht => absurd ht List.not_mem_nil⟩
    | cons c cs =>
      obtain ⟨rules, later, -, hl, rfl⟩ := scan_cons h
      have hpos := stepOf_length_pos state (c :: cs) rules
      generalize stepOf state (c :: cs) rules = step at hl hpos
      have hshort : ((c :: cs).drop step.length).length < (c :: cs).length := by
        rw [List.length_drop, List.length_cons]
        omega
      obtain ⟨hcov, hne⟩ := ih _ hshort step.state later hl
      refine ⟨?_, fun t ht => ?_⟩
      · rw [textOf_cons, hcov, List.take_append_drop]
      · rcases List.mem_cons.1 ht with rfl | ht
        · rw [Ne, List.take_eq_nil_iff]
          rintro (h0 | h0)
          · omega
          · exact List.cons_ne_nil _ _ h0
        · exact hne t ht

/-- **The tokens of a text**, for every grammar that has any. -/
theorem splits_tokenize {g : Grammar} {text : List Char} (h : g.tokenize text = .ok tokens) :
    Splits text tokens := by
  unfold Grammar.tokenize at h
  cases hs : g.scan Grammar.rootState text with
  | error e => rw [hs] at h; simp [Except.map] at h
  | ok steps =>
    rw [hs] at h
    obtain ⟨hcov, hne⟩ := splits_scan g _ text steps hs
    rw [← Except.ok.inj h]
    exact ⟨(textOf_coalesce steps).trans hcov, coalesce_inhabited hne, coalesce_alternating steps⟩

end LiterateSite.Highlight
