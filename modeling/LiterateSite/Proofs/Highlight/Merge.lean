import LiterateSite.Proofs.Highlight.Tokens

/-!
# Merging neighbours

* `Merged`: tokens that come from others by gluing what stands together and is of one kind.
* `merged_coalesce`: `coalesce` gives such tokens.
* `coalesce_group`: what it makes of a group of one kind.
* `Token.join`, `foldl_join`: **merging while the tokens come in**, each into the last one there is,
  gives the same as merging afterwards.
-/

namespace LiterateSite.Highlight

variable {t u : Token} {steps group tokens : List Token}

/-- The token is glued from tokens of its kind. -/
structure Token.Glued (t : Token) (group : List Token) : Prop where
  inhabited : group ≠ []
  kind : ∀ u ∈ group, u.kind = t.kind
  text : t.text = textOf group

/-- The tokens are glued from groups that the others fall into, and the kind changes from each
group to the next. -/
def Merged (steps tokens : List Token) : Prop :=
  ∃ groups : List (List Token), groups.flatten = steps ∧
    List.Forall₂ Token.Glued tokens groups ∧ Alternating tokens

theorem Token.glued_self (t : Token) : t.Glued [t] :=
  ⟨List.cons_ne_nil _ _, fun u hu => by rw [List.mem_singleton.1 hu], (List.append_nil _).symm⟩

theorem Token.Glued.cons (h : t.Glued group) (hk : u.kind = t.kind) :
    Token.Glued ⟨t.kind, u.text ++ t.text⟩ (u :: group) := by
  refine ⟨List.cons_ne_nil _ _, fun v hv => ?_, by rw [h.text, textOf_cons]⟩
  rcases List.mem_cons.1 hv with rfl | hv
  · exact hk
  · exact h.kind v hv

/-- One more token in front joins the first group or is one of its own. -/
theorem Merged.attach (h : Merged steps tokens) (t : Token) :
    Merged (t :: steps) (t.attach tokens) := by
  obtain ⟨groups, rfl, hg, ha⟩ := h
  have halt := attach_alternating t ha
  cases hg with
  | nil => exact ⟨[[t]], rfl, .cons t.glued_self .nil, halt⟩
  | @cons u group tokens groups hu hg =>
    by_cases hk : t.kind = u.kind
    · rw [attach_same hk] at halt ⊢
      exact ⟨(t :: group) :: groups, rfl, .cons (hu.cons hk) hg, halt⟩
    · rw [attach_other hk] at halt ⊢
      exact ⟨[t] :: group :: groups, rfl, .cons t.glued_self (.cons hu hg), halt⟩

/-- **Merging afterwards** glues what stands together and is of one kind. -/
theorem merged_coalesce (steps : List Token) : Merged steps (coalesce steps) := by
  induction steps with
  | nil => exact ⟨[], rfl, .nil, List.isChain_nil⟩
  | cons t steps ih => exact ih.attach t

/-- Tokens whose neighbours differ have nothing to merge. -/
theorem coalesce_of_alternating (h : Alternating tokens) : coalesce tokens = tokens := by
  induction tokens with
  | nil => rfl
  | cons t rest ih =>
    show t.attach (coalesce rest) = t :: rest
    rw [ih (List.IsChain.of_cons h)]
    cases rest with
    | nil => rfl
    | cons u rest => exact attach_other (List.isChain_cons_cons.1 h).1 rest

/-- A group of one kind, before tokens that begin with another kind, becomes one token. -/
theorem coalesce_group {kind : TokenKind} {later : List Token} (hk : ∀ t ∈ group, t.kind = kind)
    (hn : group ≠ []) (hl : ∀ u ∈ (coalesce later).head?, u.kind ≠ kind) :
    coalesce (group ++ later) = ⟨kind, textOf group⟩ :: coalesce later := by
  induction group with
  | nil => exact absurd rfl hn
  | cons t group ih =>
    show t.attach (coalesce (group ++ later)) = _
    obtain rfl := hk t List.mem_cons_self
    rcases eq_or_ne group [] with rfl | hg
    · rw [List.nil_append, textOf_cons, textOf_nil, List.append_nil]
      cases hc : coalesce later with
      | nil => rfl
      | cons u rest => exact attach_other (hl u (by rw [hc]; rfl)).symm rest
    · rw [ih (fun u hu => hk u (List.mem_cons_of_mem _ hu)) hg,
        attach_same (t := t) (u := ⟨t.kind, textOf group⟩) rfl, textOf_cons]

/-! ## Merging while the tokens come in -/

/-- Put a token behind the others, extending the last one if that has the same kind. -/
def Token.join : List Token → Token → List Token
  | [], t => [t]
  | [u], t => if u.kind = t.kind then [⟨u.kind, u.text ++ t.text⟩] else [u, t]
  | u :: v :: rest, t => u :: join (v :: rest) t

theorem Token.join_one (u t : Token) :
    join [u] t = if u.kind = t.kind then [⟨u.kind, u.text ++ t.text⟩] else [u, t] := rfl

theorem Token.join_cons (u : Token) (h : tokens ≠ []) (t : Token) :
    join (u :: tokens) t = u :: join tokens t := by
  cases tokens with
  | nil => exact absurd rfl h
  | cons v rest => rfl

/-- A token in front and one behind do not get into each other's way. -/
theorem attach_join (t : Token) (tokens : List Token) (last : Token) :
    t.attach (Token.join tokens last) = Token.join (t.attach tokens) last := by
  rcases tokens with _ | ⟨u, _ | ⟨v, rest⟩⟩
  · show t.attach [last] = Token.join [t] last
    rw [Token.join_one]
    by_cases hk : t.kind = last.kind
    · rw [attach_same hk, if_pos hk, hk]
    · rw [attach_other hk, if_neg hk]
  · by_cases hk : t.kind = u.kind <;> by_cases hl : u.kind = last.kind
    · rw [attach_same hk, Token.join_one, Token.join_one, if_pos hl, if_pos hl,
        attach_same (show t.kind = (Token.mk u.kind (u.text ++ last.text)).kind from hk),
        List.append_assoc]
    · rw [attach_same hk, Token.join_one, Token.join_one, if_neg hl, if_neg hl, attach_same hk]
    · rw [attach_other hk, Token.join_cons t (List.cons_ne_nil _ _), Token.join_one, if_pos hl,
        attach_other (show t.kind ≠ (Token.mk u.kind (u.text ++ last.text)).kind from hk)]
    · rw [attach_other hk, Token.join_cons t (List.cons_ne_nil _ _), Token.join_one, if_neg hl,
        attach_other hk]
  · rw [Token.join_cons u (List.cons_ne_nil _ _)]
    by_cases hk : t.kind = u.kind
    · rw [attach_same hk, attach_same hk, Token.join_cons _ (List.cons_ne_nil _ _)]
    · rw [attach_other hk, attach_other hk, Token.join_cons t (List.cons_ne_nil _ _),
        Token.join_cons u (List.cons_ne_nil _ _)]

theorem coalesce_concat (steps : List Token) (last : Token) :
    coalesce (steps ++ [last]) = Token.join (coalesce steps) last := by
  induction steps with
  | nil => rfl
  | cons t steps ih =>
    show t.attach (coalesce (steps ++ [last])) = Token.join (t.attach (coalesce steps)) last
    rw [ih, attach_join]

/-- **Merging while the tokens come in** is merging afterwards. -/
theorem foldl_join (steps : List Token) : steps.foldl Token.join [] = coalesce steps := by
  induction steps using List.reverseRecOn with
  | nil => rfl
  | append_singleton steps last ih => rw [List.foldl_concat, ih, coalesce_concat]

end LiterateSite.Highlight
