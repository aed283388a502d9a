import LiterateSite.Highlight.Highlighter
import LiterateSite.Proofs.Text.Lower

/-!
# Grammars by their names

Which grammar of a registry is found for a language.

* `Grammar.IsNamed`: a name of the grammar is the language when both are in lower case.
* `Grammar.IsNamedLower`: such a name is in lower case itself.
* `answersTo_iff`: **a grammar answers to its names in lower case only.**
* `grammars_foldl_register`: the grammar registered last is in front.
* `find?_registered`: **the grammar that is found**, and when it is the one with the name.
-/

namespace LiterateSite.Highlight

open Text

/-- The names of a grammar. -/
def Grammar.names (g : Grammar) : List String := g.name :: g.aliases

/-- One of the names is the language when both are in lower case. -/
def Grammar.IsNamed (g : Grammar) (language : String) : Prop :=
  ∃ x ∈ g.names, lowerString x = lowerString language

/-- One of the names is in lower case itself and is the language in lower case. -/
def Grammar.IsNamedLower (g : Grammar) (language : String) : Prop :=
  ∃ x ∈ g.names, lowerString x = x ∧ lowerString x = lowerString language

instance (g : Grammar) (language : String) : Decidable (g.IsNamed language) :=
  inferInstanceAs (Decidable (∃ x ∈ g.names, _))

instance (g : Grammar) (language : String) : Decidable (g.IsNamedLower language) :=
  inferInstanceAs (Decidable (∃ x ∈ g.names, _))

variable {g : Grammar} {language x : String}

theorem Grammar.IsNamedLower.isNamed (h : g.IsNamedLower language) : g.IsNamed language := by
  obtain ⟨x, hx, -, hlower⟩ := h
  exact ⟨x, hx, hlower⟩

/-- **A grammar answers to its names in lower case only.** -/
theorem answersTo_iff : g.answersTo language = true ↔ g.IsNamedLower language := by
  have hmem : g.answersTo language = true ↔ lowerString language ∈ g.names := by
    unfold Grammar.answersTo Grammar.names
    rw [Bool.or_eq_true, beq_iff_eq, List.contains_iff_mem, List.mem_cons, eq_comm]
  rw [hmem]
  constructor
  · -- the lower case of a language is its own lower case
    intro h
    exact ⟨_, h, lowerString_lowerString language, lowerString_lowerString language⟩
  · rintro ⟨x, hx, hself, hlower⟩
    rwa [← hlower, hself]

theorem lowerString_of_letters (hx : lowerString x = x)
    (h : language.toList.map Char.toLower = x.toList.map Char.toLower) :
    lowerString x = lowerString language := by
  have htext : toLower x.toList = x.toList := by
    have hlist := congrArg String.toList hx
    unfold lowerString at hlist
    rwa [String.toList_ofList] at hlist
  unfold lowerString
  rw [toLower_of_map_toLower htext h, htext]

/-- The grammar registered last is in front. -/
theorem grammars_foldl_register (gs : List Grammar) (r : Registry) :
    (gs.foldl Registry.register r).grammars = gs.reverse ++ r.grammars := by
  induction gs generalizing r with
  | nil => rfl
  | cons g later ih =>
    rw [List.foldl_cons, ih, List.reverse_cons, List.append_assoc]
    rfl

/-- The names of the built-in grammars are in lower case. -/
theorem lowerString_of_builtin :
    ∀ g ∈ Registry.builtin.grammars, ∀ x ∈ g.names, lowerString x = x := by
  have hjavascript : ∀ x ∈ Grammar.javascript.names, lowerString x = x := by decide +kernel
  have htranscript : ∀ x ∈ Grammar.transcript.names, lowerString x = x := by decide +kernel
  exact List.forall_mem_cons.2 ⟨hjavascript, List.forall_mem_singleton.2 htranscript⟩

/-- The first element with a property is the first one with less if it has the property itself. -/
theorem find?_eq_find?_iff {α : Type} {p q : α → Bool} (h : ∀ a, q a = true → p a = true)
    (l : List α) : l.find? q = l.find? p ↔ ∀ a ∈ l.find? p, q a = true := by
  cases hp : l.find? p with
  | none =>
    rw [List.find?_eq_none] at hp
    have hq : l.find? q = none := List.find?_eq_none.2 fun a ha hqa => hp a ha (h a hqa)
    exact iff_of_true hq fun a ha => absurd ha (Option.not_mem_none a)
  | some a =>
    constructor
    · intro hq b hb
      exact Option.some.inj hb ▸ List.find?_some hq
    · intro hq
      obtain ⟨-, front, back, hl, hfront⟩ := List.find?_eq_some_iff_append.1 hp
      refine List.find?_eq_some_iff_append.2 ⟨hq a rfl, front, back, hl, fun b hb => ?_⟩
      have hpb := hfront b hb
      rw [Bool.not_eq_true'] at hpb ⊢
      exact Bool.eq_false_iff.2 fun hqb => Bool.eq_false_iff.1 hpb (h b hqb)

/-- **The grammar that is found** for a language, with any grammars registered on top of the built-in
ones, is the last one with a name that is in lower case and is the language in lower case.

It is the last one that has the language among its names, both in lower case, if and only if that
grammar has a name in lower case for it, or there is none; and so it is if all names that are
registered are in lower case. In particular, a grammar is found under each of its names that is in
lower case, in any case of its ASCII letters, unless one registered later answers to it. -/
theorem find?_registered (gs : List Grammar) (language : String) :
    let all := gs.reverse ++ [.javascript, .transcript]
    let found := (gs.foldl Registry.register .builtin).find? language
    let named := all.find? fun g => g.IsNamed language
    (found = all.find? fun g => g.IsNamedLower language) ∧
      (found = named ↔ ∀ g ∈ named, g.IsNamedLower language) ∧
      ((∀ g ∈ gs, ∀ x ∈ g.names, lowerString x = x) → found = named) ∧
      ∀ later g earlier, all = later ++ g :: earlier → ∀ x ∈ g.names, lowerString x = x →
        language.toList.map Char.toLower = x.toList.map Char.toLower →
        (∀ g' ∈ later, ¬g'.answersTo language) → found = some g := by
  intro all found named
  have hall : (gs.foldl Registry.register .builtin).grammars = all := grammars_foldl_register gs _
  have hfound : found = all.find? fun g => g.IsNamedLower language := by
    have hanswers : (fun g : Grammar => g.answersTo language) =
        fun g => decide (g.IsNamedLower language) :=
      funext fun g => Bool.eq_iff_iff.2 (answersTo_iff.trans decide_eq_true_iff.symm)
    calc found = all.find? fun g => g.answersTo language := congrArg _ hall
      _ = all.find? fun g => g.IsNamedLower language := by rw [hanswers]
  have hiff : found = named ↔ ∀ g ∈ named, g.IsNamedLower language := by
    have hless : ∀ g : Grammar, decide (g.IsNamedLower language) = true →
        decide (g.IsNamed language) = true :=
      fun g hg => decide_eq_true (of_decide_eq_true hg).isNamed
    rw [hfound, find?_eq_find?_iff hless]
    simp only [decide_eq_true_eq]
    rfl
  refine ⟨hfound, hiff, fun hlower => hiff.2 fun g hg => ?_, ?_⟩
  · have hnamed : g.IsNamed language :=
      of_decide_eq_true (List.find?_some (p := fun g : Grammar => decide (g.IsNamed language)) hg)
    obtain ⟨x, hx, hlanguage⟩ := hnamed
    have hself : lowerString x = x := by
      rcases List.mem_append.1 (List.mem_of_find?_eq_some hg) with hg | hg
      · exact hlower g (List.mem_reverse.1 hg) x hx
      · exact lowerString_of_builtin g hg x hx
    exact ⟨x, hx, hself, hlanguage⟩
  · intro later g earlier hsplit x hx hself hletters hlater
    have hgs : g.IsNamedLower language := ⟨x, hx, hself, lowerString_of_letters hself hletters⟩
    have hnone : ∀ g' ∈ later, (!g'.answersTo language) = true := fun g' hg' => by
      rw [Bool.not_eq_true', Bool.eq_false_iff]
      exact hlater g' hg'
    calc found = all.find? fun g => g.answersTo language := congrArg _ hall
      _ = some g := List.find?_eq_some_iff_append.2
        ⟨answersTo_iff.2 hgs, later, earlier, hsplit, hnone⟩

/-- A later grammar takes the names of a built-in one; one with a capital in its name is no obstacle. -/
theorem find?_registered_shadowing :
    let gs : List Grammar := [{ name := "shout", aliases := ["js"] }, { name := "Shout" }]
    (gs.foldl Registry.register .builtin).find? "JS" =
      some { name := "shout", aliases := ["js"] } := by
  intro gs
  obtain ⟨-, -, -, hletters⟩ := find?_registered gs "JS"
  have hlower : lowerString "js" = "js" := by decide +kernel
  exact hletters [{ name := "Shout" }] _ [.javascript, .transcript] rfl "js" (by decide) hlower
    (by decide) (by decide +kernel)

/-- A grammar with a capital in its name is not found under that name. -/
theorem find?_capital_name :
    let g : Grammar := { name := "Shout" }
    g.IsNamed "Shout" ∧ ([g].foldl Registry.register .builtin).find? "Shout" = none := by
  intro g
  have hnone : ∀ g' ∈ [g, .javascript, .transcript], ¬g'.answersTo "Shout" = true := by
    decide +kernel
  exact ⟨⟨"Shout", List.mem_cons_self, rfl⟩, List.find?_eq_none.2 hnone⟩

end LiterateSite.Highlight
