import LiterateSite.Proofs.Highlight.Readback

/-!
# Nothing is lost by highlighting

* `highlight_eq_ok`: what a highlighter by grammars gives.
* `highlight_lossless`: **highlighted code can be read back**, for all grammars, texts and themes.
* `visibleText_highlight`: what one sees of it is the text.
-/

namespace LiterateSite.Highlight

open Markup

variable {r : Registry} {text html : List Char} {language : String} {theme : Theme}

/-- **The markup of a text** is that of its tokens in the grammar that answers to the language. -/
theorem highlight_eq_ok : r.highlight text language theme = .ok html ↔
    ∃ g tokens, r.find? language = some g ∧ g.tokenize text = .ok tokens ∧
      html = format theme.name tokens := by
  unfold Registry.highlight Registry.tokenize
  cases hf : r.find? language with
  | none => simp [Except.map]
  | some g =>
    constructor
    · intro h
      cases ht : g.tokenize text with
      | error e => simp [ht, Except.map] at h
      | ok tokens =>
        simp only [ht, Except.map, Except.ok.injEq] at h
        exact ⟨g, tokens, rfl, ht, h.symm⟩
    · rintro ⟨g', tokens, hg, ht, rfl⟩
      rw [← Option.some.inj hg] at ht
      simp only [ht]
      rfl

/-- **Highlighting is lossless.** With any grammars registered on top of the built-in ones, the
markup of a text is a body between the tags of the theme. The body consists of runs of text and of
spans, which hold text in markup and nothing else, and it is read back as the tokens of the text, so
that one sees the text itself. For every theme, different lists of tokens have different markup,
unless a plain token is empty or follows another one. -/
theorem highlight_lossless (grammars : List Grammar) :
    (∀ text language theme html,
      (grammars.foldl Registry.register Registry.builtin).highlight text language theme = .ok html →
        ∃ g tokens body elements,
          (grammars.foldl Registry.register Registry.builtin).find? language = some g ∧
          g.tokenize text = .ok tokens ∧
          html = ("<pre class=\"chroma " ++ theme.name ++ "\"><code>").toList ++ body ++
            "</code></pre>".toList ∧
          body = elements.flatMap Element.markup ∧ (∀ x ∈ elements, Escaped x.raw) ∧
          elements? body = some elements ∧ read? body = some tokens ∧
          visibleText body = text ∧ textOf tokens = text) ∧
      ∀ (theme : Theme) (a b : List Token), Legible a → Legible b →
        format theme.name a = format theme.name b → a = b := by
  refine ⟨fun text language theme html h => ?_, fun theme a b ha hb h => format_injective ha hb h⟩
  obtain ⟨g, tokens, hg, ht, rfl⟩ := highlight_eq_ok.1 h
  have hs := splits_tokenize ht
  have hl := legible_of_splits hs
  refine ⟨g, tokens, body tokens, tokens.map elementOf, hg, ht, rfl, body_eq tokens, ?_,
    elements?_body hl, read?_body hl, (visibleText_body tokens).trans hs.covers, hs.covers⟩
  intro x hx
  obtain ⟨t, -, rfl⟩ := List.mem_map.1 hx
  rw [raw_elementOf]
  exact escaped_escape t.text

/-- A text that looks like markup itself under a registered grammar, and two texts that would be
the same if entities were not escaped. -/
theorem highlight_lossless_entities :
    let rules : List Rule :=
      [⟨.one (.single '<'), .operator, none⟩, ⟨.plus true (.one .anything), .output, none⟩]
    let g : Grammar := { name := "signs", states := [("root", rules)] }
    (∃ (html body : List Char) (elements : List Element),
      (Registry.builtin.register g).highlight "<&lt;".toList "signs" Theme.github = .ok html ∧
      html = "<pre class=\"chroma github\"><code>".toList ++ body ++ "</code></pre>".toList ∧
      body = elements.flatMap Element.markup ∧
      read? body = some [⟨.operator, "<".toList⟩, ⟨.output, "&lt;".toList⟩] ∧
      visibleText body = "<&lt;".toList) ∧
      format "github" [⟨.text, "&".toList⟩] ≠ format "github" [⟨.text, "&amp;".toList⟩] := by
  intro rules g
  have hlegible : ∀ text : List Char, text ≠ [] → Legible [⟨.text, text⟩] := by
    intro text ht
    refine ⟨fun t hm _ => ?_, List.isChain_singleton _⟩
    rw [List.mem_singleton.1 hm]
    exact ht
  have hfind : (Registry.builtin.register g).find? "signs" = some g := by
    unfold Registry.find? Registry.register
    exact List.find?_cons_of_pos (by decide +kernel)
  have hsteps : g.tokenize "<&lt;".toList =
      .ok [⟨.operator, "<".toList⟩, ⟨.output, "&lt;".toList⟩] := by
    -- a scan is not evaluated, but followed for its two steps
    have hfirst : stepOf "root" ['<', '&', 'l', 't', ';'] rules = ⟨.operator, 1, "root"⟩ := by
      decide +kernel
    have hlater : stepOf "root" ['&', 'l', 't', ';'] rules = ⟨.output, 4, "root"⟩ := by
      decide +kernel
    have hscan : g.scan "root" ['<', '&', 'l', 't', ';'] =
        .ok [⟨.operator, ['<']⟩, ⟨.output, ['&', 'l', 't', ';']⟩] := by
      simp [Grammar.scan, show g.rules? "root" = some rules from rfl, hfirst, hlater]
    unfold Grammar.tokenize
    rw [show "<&lt;".toList = ['<', '&', 'l', 't', ';'] from rfl,
      show Grammar.rootState = "root" from rfl, hscan]
    rfl
  have hhigh := highlight_eq_ok.2 ⟨g, _, hfind, hsteps, (rfl : format Theme.github.name _ = _)⟩
  obtain ⟨hread, hinj⟩ := highlight_lossless [g]
  refine ⟨?_, fun h => ?_⟩
  · obtain ⟨g', tokens, body, elements, hg, ht, hhtml, hb, -, -, hr, hv, -⟩ := hread _ _ _ _ hhigh
    have hg' : g' = g := Option.some.inj (hg.symm.trans hfind)
    rw [hg', hsteps] at ht
    rw [← Except.ok.inj ht] at hr
    exact ⟨_, body, elements, hhigh, hhtml, hb, hr, hv⟩
  · have he := hinj Theme.github _ _ (hlegible _ (by decide)) (hlegible _ (by decide)) h
    exact absurd he (by decide)

/-- **What one sees of highlighted code** is the code, if the name of the theme ends no tag. -/
theorem visibleText_highlight (hn : '>' ∉ theme.name.toList)
    (h : r.highlight text language theme = .ok html) : visibleText html = text := by
  obtain ⟨g, tokens, -, ht, rfl⟩ := highlight_eq_ok.1 h
  rw [visibleText_format hn]
  exact (splits_tokenize ht).covers

end LiterateSite.Highlight
