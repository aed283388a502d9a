import Mathlib.Logic.Basic
import LiterateSite.Pattern.Reader

/-!
# Readers before a closing bracket

What a reader does with a text does not depend on a closing bracket after it.

* `Follows`: the text left to read is the same, but for a closing bracket after it.
* `Agrees`: two readers give the same from such states, if both give anything.
* `Agrees.bind`, `Agrees.read`, `Agrees.peek`: readers made of others.
-/

namespace LiterateSite.PatternReader

variable {α β : Type} {m n : Reader α} {f g : α → Reader β} {s t : State}

/-! ## States and readers -/

/-- The second state has a closing bracket after the text left in the first, or a comment has taken
the bracket and nothing is left in both. -/
structure Follows (s t : State) : Prop where
  flags : t.flags = s.flags
  names : t.names = s.names
  rest : t.rest = s.rest ++ [')'] ∨ s.rest = [] ∧ t.rest = []

/-- From a state and one that follows it the two readers give the same, if both give anything. -/
def Agrees (m n : Reader α) : Prop :=
  ∀ ⦃s t⦄, Follows s t → ∀ ⦃a s' b t'⦄, m.run s = some (a, s') → n.run t = some (b, t') →
    b = a ∧ Follows s' t'

/-- The reader gives the same with a closing bracket after its text. -/
abbrev Framed (m : Reader α) : Prop := Agrees m m

/-- **A step before others**: what both give is given by the others from where it ends. -/
theorem run_bind {r : β × State} :
    (m >>= f).run s = some r ↔ ∃ a s', m.run s = some (a, s') ∧ (f a).run s' = some r := by
  show (m.run s).bind (fun p => (f p.1).run p.2) = some r ↔ _
  rw [Option.bind_eq_some_iff, Prod.exists]

/-- Two continuations that give the same wherever the step can end. -/
theorem run_bind_congr (h : ∀ a s', m.run s = some (a, s') → (f a).run s' = (g a).run s') :
    (m >>= f).run s = (m >>= g).run s := by
  show (m.run s).bind _ = (m.run s).bind _
  exact Option.bind_congr fun p hp => h p.1 p.2 hp

theorem Agrees.ret (a : α) : Framed (pure a : Reader α) := by
  intro s t h a s' b t' hm hn
  cases hm
  cases hn
  exact ⟨rfl, h⟩

theorem Agrees.fail (n : Reader α) : Agrees failure n := by
  intro s t h a s' b t' hm
  cases hm

theorem Agrees.fails (m : Reader α) : Agrees m failure := by
  intro s t h a s' b t' hm hn
  cases hn

theorem Agrees.bind (hm : Agrees m n) (hf : ∀ a, Agrees (f a) (g a)) :
    Agrees (m >>= f) (n >>= g) := by
  intro s t h a s' b t' hrun hrun'
  obtain ⟨x, s₁, hx, hrun⟩ := run_bind.1 hrun
  obtain ⟨y, t₁, hy, hrun'⟩ := run_bind.1 hrun'
  obtain ⟨rfl, h₁⟩ := hm h hx hy
  exact hf y h₁ hrun hrun'

theorem Agrees.ite {c : Prop} [Decidable c] {m' n' : Reader α} (hm : Agrees m n)
    (hn : Agrees m' n') : Agrees (if c then m else m') (if c then n else n') := by
  split
  · exact hm
  · exact hn

theorem Agrees.or {m n m' n' : Reader Bool} (hm : Agrees m n) (hn : Agrees m' n') :
    Agrees (m <||> m') (n <||> n') := by
  refine hm.bind fun taken => ?_
  cases taken with
  | true => exact .ret _
  | false => exact hn

/-- What a reader asks of the state are the flags, the names and the text before the bracket. -/
theorem Agrees.read {f g : State → Reader β}
    (h : ∀ rest rest' flags names, Follows ⟨rest, flags, names⟩ ⟨rest', flags, names⟩ →
      Agrees (f ⟨rest, flags, names⟩) (g ⟨rest', flags, names⟩)) :
    Agrees (get >>= f) (get >>= g) := by
  intro s t hst a s' b t' hm hn
  obtain ⟨rest, flags, names⟩ := s
  obtain ⟨rest', flags', names'⟩ := t
  obtain rfl : flags' = flags := hst.flags
  obtain rfl : names' = names := hst.names
  exact h rest rest' flags' names' hst hst hm hn

theorem Agrees.write (h : Follows s t) : Agrees (set s : Reader PUnit) (set t) := by
  intro s₁ t₁ h₁ a s' b t' hm hn
  cases hm
  cases hn
  exact ⟨rfl, h⟩

theorem Agrees.change {u v : State → State} (h : ∀ s t, Follows s t → Follows (u s) (v t)) :
    Agrees (modify u : Reader PUnit) (modify v) := by
  intro s₁ t₁ h₁ a s' b t' hm hn
  cases hm
  cases hn
  exact ⟨rfl, h s₁ t₁ h₁⟩

/-! ## The text left -/

theorem Follows.cons {c : Char} {rest : List Char} (h : Follows s t) (hs : s.rest = c :: rest) :
    t.rest = c :: (rest ++ [')']) := by
  rcases h.rest with hr | ⟨hnil, -⟩
  · rw [hr, hs]
    rfl
  · rw [hs] at hnil
    cases hnil

theorem Follows.of_nil (h : Follows s t) (hs : s.rest = []) : t.rest = [')'] ∨ t.rest = [] := by
  rcases h.rest with hr | ⟨-, ht⟩
  · exact Or.inl (by rw [hr, hs]; rfl)
  · exact Or.inr ht

theorem Follows.length_le (h : Follows s t) : s.rest.length ≤ t.rest.length := by
  rcases h.rest with hr | ⟨hs, -⟩
  · rw [hr, List.length_append]
    exact Nat.le_add_right _ _
  · rw [hs]
    exact Nat.zero_le _

/-- A word without the bracket begins both texts or neither. -/
theorem Follows.prefix_iff {word : List Char} (h : Follows s t) (hw : ')' ∉ word) :
    word <+: t.rest ↔ word <+: s.rest := by
  rcases h.rest with hr | ⟨hs, ht⟩
  · rw [hr, List.prefix_concat_iff, or_iff_right]
    intro he
    exact hw (he ▸ List.mem_append_right _ List.mem_cons_self)
  · rw [hs, ht]

/-- The same text is taken from both. -/
theorem Follows.drop {word rest : List Char} (h : Follows s t) (hs : s.rest = word ++ rest) :
    ∃ rest', t.rest = word ++ rest' ∧ Follows { s with rest } { t with rest := rest' } := by
  rcases h.rest with hr | ⟨hnil, ht⟩
  · exact ⟨rest ++ [')'], by rw [hr, hs, List.append_assoc], h.flags, h.names, Or.inl rfl⟩
  · obtain ⟨rfl, rfl⟩ := List.append_eq_nil_iff.1 (hs.symm.trans hnil)
    exact ⟨[], ht, h.flags, h.names, Or.inr ⟨rfl, rfl⟩⟩

/-- Blanks and comments end before the bracket, or a comment takes it. -/
theorem dropSpaced_append (text : List Char) (inComment : Bool) :
    dropSpaced (text ++ [')']) inComment = dropSpaced text inComment ++ [')'] ∨
      dropSpaced text inComment = [] ∧ dropSpaced (text ++ [')']) inComment = [] := by
  induction text generalizing inComment with
  | nil =>
    cases inComment with
    | true => exact Or.inr ⟨rfl, rfl⟩
    | false => exact Or.inl rfl
  | cons c text ih =>
    rw [List.cons_append]
    unfold dropSpaced
    split
    · exact ih _
    split
    · exact ih _
    split
    · exact ih _
    · exact Or.inl rfl

theorem dropSpaced_length (text : List Char) (inComment : Bool) :
    (dropSpaced text inComment).length ≤ text.length := by
  induction text generalizing inComment with
  | nil => exact Nat.le_refl _
  | cons c text ih =>
    unfold dropSpaced
    split
    · exact Nat.le_succ_of_le (ih _)
    split
    · exact Nat.le_succ_of_le (ih _)
    split
    · exact Nat.le_succ_of_le (ih _)
    · exact Nat.le_refl _

theorem framed_skipSpaced : Framed skipSpaced := by
  refine .change fun s t h => ?_
  rw [h.flags]
  split
  · refine ⟨rfl, h.names, ?_⟩
    rcases h.rest with hr | ⟨hs, ht⟩
    · rw [hr]
      exact dropSpaced_append s.rest false
    · rw [hs, ht]
      exact Or.inr ⟨rfl, rfl⟩
  · exact h

/-- What depends on the next character sees the bracket where the other reader sees the end. -/
theorem Agrees.peek {f g : Option Char → Reader β} (hc : ∀ c, Agrees (f (some c)) (g (some c)))
    (hn : Agrees (f none) (g none)) (hb : Agrees (f none) (g (some ')'))) :
    Agrees (peek? >>= f) (peek? >>= g) := by
  intro s t h a s' b t' hm hn'
  obtain ⟨x, s₁, hx, hm⟩ := run_bind.1 hm
  obtain ⟨y, t₁, hy, hn'⟩ := run_bind.1 hn'
  cases hx
  cases hy
  cases hs : s.rest with
  | nil =>
    rw [hs] at hm
    rcases h.of_nil hs with ht | ht
    · rw [ht] at hn'
      exact hb h hm hn'
    · rw [ht] at hn'
      exact hn h hm hn'
  | cons c rest =>
    rw [hs] at hm
    rw [h.cons hs] at hn'
    exact hc c h hm hn'

theorem run_peek_bind (f : Option Char → Reader β) (s : State) :
    (peek? >>= f).run s = (f s.rest.head?).run s := rfl

theorem run_next {c : Char} {s' : State} :
    next.run s = some (c, s') ↔ ∃ rest, s.rest = c :: rest ∧ s' = { s with rest } := by
  obtain ⟨rest, flags, names⟩ := s
  cases rest with
  | nil =>
    have hnone : next.run ⟨[], flags, names⟩ = none := rfl
    rw [hnone]
    constructor
    · intro h
      cases h
    · rintro ⟨rest, h, -⟩
      cases h
  | cons d rest =>
    have hsome : next.run ⟨d :: rest, flags, names⟩ = some (d, ⟨rest, flags, names⟩) := rfl
    rw [hsome]
    constructor
    · intro h
      cases h
      exact ⟨rest, rfl, rfl⟩
    · rintro ⟨rest, h, rfl⟩
      cases h
      rfl

theorem run_next_bind {f : Char → Reader β} {c : Char} {rest : List Char}
    (hs : s.rest = c :: rest) : (next >>= f).run s = (f c).run { s with rest } := by
  have hrun := run_next.2 ⟨rest, hs, rfl⟩
  show (next.run s).bind _ = _
  rw [hrun]
  rfl

theorem framed_next : Framed next := by
  intro s t h a s' b t' hm hn
  obtain ⟨rest, hs, rfl⟩ := run_next.1 hm
  obtain ⟨rest', ht, rfl⟩ := run_next.1 hn
  obtain ⟨more, hmore, hf⟩ := h.drop (show s.rest = [a] ++ rest from hs)
  obtain ⟨rfl, rfl⟩ := List.cons.inj (ht.symm.trans hmore)
  exact ⟨rfl, hf⟩

theorem run_accept (w : String) (s : State) : (accept w).run s =
    if w.toList.isPrefixOf s.rest then some (true, { s with rest := s.rest.drop w.toList.length })
    else some (false, s) := by
  show (if _ then _ else _ : Reader Bool).run s = _
  split <;> rfl

theorem run_accept_true {w : String} {s' : State} (h : (accept w).run s = some (true, s')) :
    s.rest = w.toList ++ s'.rest := by
  rw [run_accept] at h
  split at h
  · rename_i hp
    obtain ⟨rest, hr⟩ := List.isPrefixOf_iff_prefix.1 hp
    cases h
    rw [← hr, List.drop_left]
  · cases h

theorem framed_accept {w : String} (hw : ')' ∉ w.toList) : Framed (accept w) := by
  intro s t h a s' b t' hm hn
  rw [run_accept] at hm hn
  have hiff : w.toList.isPrefixOf t.rest = w.toList.isPrefixOf s.rest := by
    rw [Bool.eq_iff_iff, List.isPrefixOf_iff_prefix, List.isPrefixOf_iff_prefix, h.prefix_iff hw]
  rw [hiff] at hn
  split at hm
  · rename_i hp
    obtain ⟨rest, hs⟩ := List.isPrefixOf_iff_prefix.1 hp
    obtain ⟨rest', ht, hf⟩ := h.drop hs.symm
    rw [if_pos hp, ht, List.drop_left] at hn
    rw [← hs, List.drop_left] at hm
    cases hm
    cases hn
    exact ⟨rfl, hf⟩
  · rename_i hp
    rw [if_neg hp] at hn
    cases hm
    cases hn
    exact ⟨rfl, h⟩

theorem run_require {w : String} {u : Unit} {s' : State} (h : (require w).run s = some (u, s')) :
    (accept w).run s = some (true, s') := by
  obtain ⟨taken, s₁, htaken, h⟩ := run_bind.1 h
  cases taken with
  | false => cases h
  | true =>
    cases h
    exact htaken

/-- Where a text is required, it stands before the bracket. -/
theorem framed_require (w : String) : Framed (require w) := by
  intro s t h a s' b t' hm hn
  have hm := run_require hm
  have hn := run_require hn
  obtain ⟨rest', ht, hf⟩ := h.drop (run_accept_true hm)
  rw [run_accept] at hm hn
  split at hm
  · split at hn
    · cases hm
      cases hn
      rw [ht, List.drop_left]
      exact ⟨rfl, hf⟩
    · cases hn
  · cases hm

/-! ## Characters while a condition holds -/

/-- The two readers give the same, unless nothing is left for the first one in the end. -/
def AgreesUnlessDone (m n : Reader α) : Prop :=
  ∀ ⦃s t⦄, Follows s t → ∀ ⦃a s' b t'⦄, m.run s = some (a, s') → n.run t = some (b, t') →
    b = a ∧ Follows s' t' ∨ s'.rest = []

/-- Where more is required, something has to be left. -/
theorem AgreesUnlessDone.bind_require {w : String} (h : AgreesUnlessDone m n) (hne : w.toList ≠ [])
    (hf : ∀ a, Agrees (f a) (g a)) :
    Agrees (m >>= fun a => require w >>= fun _ => f a)
      (n >>= fun a => require w >>= fun _ => g a) := by
  intro s t hst a s' b t' hm hn
  obtain ⟨x, s₁, hx, hm⟩ := run_bind.1 hm
  obtain ⟨y, t₁, hy, hn⟩ := run_bind.1 hn
  rcases h hst hx hy with ⟨rfl, h₁⟩ | hnil
  · exact (framed_require w).bind (fun _ => hf y) h₁ hm hn
  · -- the first reader fails
    obtain ⟨u, s₂, hu, -⟩ := run_bind.1 hm
    obtain ⟨ok, s₃, hok, hu⟩ := run_bind.1 hu
    rw [run_accept, hnil, if_neg] at hok
    · cases hok
      cases hu
    · rw [List.isPrefixOf_iff_prefix, List.prefix_nil]
      exact hne

variable {p : Char → Bool}

/-- The bracket does not matter if the characters end before it. -/
theorem takeWhile_bracket {text : List Char} (h : p ')' = false ∨ text.dropWhile p ≠ []) :
    (text ++ [')']).takeWhile p = text.takeWhile p ∧
      (text ++ [')']).dropWhile p = text.dropWhile p ++ [')'] := by
  induction text with
  | nil => simp [h.resolve_right fun hn => hn rfl]
  | cons c text ih =>
    cases hc : p c with
    | true =>
      rw [List.dropWhile_cons_of_pos hc] at h
      simp [hc, ih h]
    | false => simp [hc]

theorem takeWhile_unlessDone (p : Char → Bool) : AgreesUnlessDone (takeWhile p) (takeWhile p) := by
  intro s t h a s' b t' hm hn
  cases hm
  cases hn
  refine or_iff_not_imp_right.2 fun hne => ?_
  rcases h.rest with hr | ⟨hs, ht⟩
  · obtain ⟨htake, hdrop⟩ := takeWhile_bracket (Or.inr hne)
    rw [hr, htake, hdrop]
    exact ⟨rfl, h.flags, h.names, Or.inl rfl⟩
  · exact absurd (by rw [hs]; rfl) hne

theorem framed_takeWhile (hp : p ')' = false) : Framed (takeWhile p) := by
  intro s t h a s' b t' hm hn
  cases hm
  cases hn
  rcases h.rest with hr | ⟨hs, ht⟩
  · obtain ⟨htake, hdrop⟩ := takeWhile_bracket (Or.inl hp)
    rw [hr, htake, hdrop]
    exact ⟨rfl, h.flags, h.names, Or.inl rfl⟩
  · rw [hs, ht]
    exact ⟨rfl, h.flags, h.names, Or.inr ⟨rfl, rfl⟩⟩

theorem run_skipSpaced_length {u : Unit} {s' : State} (h : skipSpaced.run s = some (u, s')) :
    s'.rest.length ≤ s.rest.length := by
  cases h
  show (if s.flags.spaced then _ else s : State).rest.length ≤ _
  split
  · exact dropSpaced_length _ _
  · exact Nat.le_refl _

/-- One more character, if the condition holds of the next one. -/
theorem run_takeSpaced_cons {c : Char} {rest : List Char} (hs : s.rest = c :: rest) (k : Nat) :
    (takeSpaced p (k + 1)).run s =
      if p c then
        (skipSpaced >>= fun _ => takeSpaced p k >>= fun taken => pure (c :: taken)).run
          { s with rest }
      else some ([], s) := by
  rw [takeSpaced, run_peek_bind, hs]
  show (if (!p c) = true then (pure [] : Reader _) else _).run s = _
  cases p c with
  | false => rfl
  | true => exact run_next_bind hs

theorem run_takeSpaced_nil (hs : s.rest = []) (k : Nat) :
    (takeSpaced p k).run s = some ([], s) := by
  cases k with
  | zero => rfl
  | succ k =>
    rw [takeSpaced, run_peek_bind, hs]
    rfl

/-- As many characters as are left are as good as any larger number. -/
theorem run_takeSpaced_of_le {k l : Nat} (hk : s.rest.length ≤ k) (hl : s.rest.length ≤ l) :
    (takeSpaced p k).run s = (takeSpaced p l).run s := by
  induction k generalizing l s with
  | zero =>
    have hs : s.rest = [] := List.eq_nil_of_length_eq_zero (Nat.le_zero.1 hk)
    rw [run_takeSpaced_nil hs, run_takeSpaced_nil hs]
  | succ k ih =>
    cases hs : s.rest with
    | nil => rw [run_takeSpaced_nil hs, run_takeSpaced_nil hs]
    | cons c rest =>
      rw [hs] at hk hl
      obtain ⟨l, rfl⟩ := Nat.exists_eq_succ_of_ne_zero (Nat.ne_of_gt (Nat.lt_of_lt_of_le
        (Nat.succ_pos rest.length) hl))
      rw [run_takeSpaced_cons hs, run_takeSpaced_cons hs]
      split
      · refine run_bind_congr fun u s' hskip => ?_
        have hshort := run_skipSpaced_length hskip
        exact congrArg (fun r => Option.bind r _) (ih
          (Nat.le_trans hshort (Nat.le_of_succ_le_succ hk))
          (Nat.le_trans hshort (Nat.le_of_succ_le_succ hl)))
      · rfl

/-- **The characters up to the bracket** are the same, if the condition does not hold of it. -/
theorem takeSpaced_cases (p : Char → Bool) (k : Nat) (h : Follows s t) {a b : List Char}
    {s' t' : State} (hm : (takeSpaced p k).run s = some (a, s'))
    (hn : (takeSpaced p k).run t = some (b, t')) :
    b = a ∧ Follows s' t' ∨ s'.rest = [] ∧ p ')' = true := by
  induction k generalizing s t a b with
  | zero =>
    cases hm
    cases hn
    exact Or.inl ⟨rfl, h⟩
  | succ k ih =>
    cases hs : s.rest with
    | nil =>
      rw [run_takeSpaced_nil hs] at hm
      cases hm
      rw [or_iff_not_imp_right, not_and]
      intro hp
      have hp : p ')' = false := Bool.eq_false_iff.2 (hp hs)
      rcases h.of_nil hs with ht | ht
      · rw [run_takeSpaced_cons ht, hp] at hn
        cases hn
        exact ⟨rfl, h⟩
      · rw [run_takeSpaced_nil ht] at hn
        cases hn
        exact ⟨rfl, h⟩
    | cons c rest =>
      rw [run_takeSpaced_cons hs] at hm
      rw [run_takeSpaced_cons (h.cons hs)] at hn
      have hf : Follows { s with rest } { t with rest := rest ++ [')'] } :=
        ⟨h.flags, h.names, Or.inl rfl⟩
      split at hm
      · rename_i hc
        rw [if_pos hc] at hn
        obtain ⟨u, s₁, hskip, hm⟩ := run_bind.1 hm
        obtain ⟨a, s₂, htake, hm⟩ := run_bind.1 hm
        obtain ⟨u', t₁, hskip', hn⟩ := run_bind.1 hn
        obtain ⟨b, t₂, htake', hn⟩ := run_bind.1 hn
        cases hm
        cases hn
        rcases ih (framed_skipSpaced hf hskip hskip').2 htake htake' with ⟨rfl, h₂⟩ | hdone
        · exact Or.inl ⟨rfl, h₂⟩
        · exact Or.inr hdone
      · rename_i hc
        rw [if_neg hc] at hn
        cases hm
        cases hn
        exact Or.inl ⟨rfl, h⟩

theorem framed_takeSpaced (hp : p ')' = false) (k : Nat) : Framed (takeSpaced p k) := by
  intro s t h a s' b t' hm hn
  rcases takeSpaced_cases p k h hm hn with hsame | ⟨-, hp'⟩
  · exact hsame
  · exact absurd (hp.symm.trans hp') Bool.false_ne_true

/-- As many characters as are left, with the bracket as one more. -/
theorem takeLeft_cases (p : Char → Bool) (h : Follows s t) {a b : List Char} {s' t' : State}
    (hm : (left >>= fun k => takeSpaced p k).run s = some (a, s'))
    (hn : (left >>= fun k => takeSpaced p k).run t = some (b, t')) :
    b = a ∧ Follows s' t' ∨ s'.rest = [] ∧ p ')' = true := by
  have hm : (takeSpaced p s.rest.length).run s = some (a, s') := hm
  rw [run_takeSpaced_of_le (Nat.le_refl _) h.length_le] at hm
  exact takeSpaced_cases p _ h hm hn

theorem Agrees.takeLeft {f g : List Char → Reader β} (hp : p ')' = false)
    (hf : ∀ a, Agrees (f a) (g a)) : Agrees (left >>= fun k => takeSpaced p k >>= f)
      (left >>= fun k => takeSpaced p k >>= g) := by
  have htake : Framed (left >>= fun k => takeSpaced p k) := by
    intro s t h a s' b t' hm hn
    rcases takeLeft_cases p h hm hn with hsame | ⟨-, hp'⟩
    · exact hsame
    · exact absurd (hp.symm.trans hp') Bool.false_ne_true
  have h := htake.bind hf
  rwa [bind_assoc, bind_assoc] at h

/-- The characters up to a text that is required. -/
theorem Agrees.takeUntil {f g : List Char → Reader β} {w : String} (hne : w.toList ≠ [])
    (hf : ∀ a, Agrees (f a) (g a)) :
    Agrees (left >>= fun k => takeSpaced p k >>= fun a => require w >>= fun _ => f a)
      (left >>= fun k => takeSpaced p k >>= fun a => require w >>= fun _ => g a) := by
  have htake : AgreesUnlessDone (left >>= fun k => takeSpaced p k)
      (left >>= fun k => takeSpaced p k) :=
    fun _ _ h _ _ _ _ hm hn => (takeLeft_cases p h hm hn).imp_right And.left
  have h := htake.bind_require hne hf
  rwa [bind_assoc, bind_assoc] at h

end LiterateSite.PatternReader
