import LiterateSite.Proofs.Highlight.Lossless
import LiterateSite.Proofs.Source.Code
import LiterateSite.Site.Page

/-!
# The rows of a page

* `shownCode`: the code blocks of rows that are not empty, as one sees them.
* `rows_eq_ok`: a page has the row of its description, those of its segments, and the row of the
  transcript.
* `Shows`, `shownCode_of_shows`: rows that show segments show the code of the segments.
* `rows_show_source`: **the code on a page is the code of its source.**
-/

namespace LiterateSite.Site

open Highlight Highlight.Markup Text

/-- The code blocks of rows that are not empty, as one sees them. -/
def shownCode (rows : List Template.Row) : List (List Char) :=
  ((rows.map Template.Row.codeBlock).filter (· ≠ [])).map visibleText

/-- A row shows a segment: there is a code block exactly if there is code, and what one sees of it
is the code. -/
def Shows (row : Template.Row) (s : Source.Segment) : Prop :=
  (s.code = [] → row.codeBlock = []) ∧
    (s.code ≠ [] → row.codeBlock ≠ [] ∧ visibleText row.codeBlock = s.code)

variable {k : Look} {x : Example} {markup : List Char} {s : Source.Segment}
  {segments : List Source.Segment} {row : Template.Row} {rows : List Template.Row}

theorem shownCode_cons_of_empty (h : row.codeBlock = []) (rows : List Template.Row) :
    shownCode (row :: rows) = shownCode rows := by
  unfold shownCode
  rw [List.map_cons, List.filter_cons_of_neg (by simp [h])]

theorem shownCode_cons_of_code (h : row.codeBlock ≠ []) (rows : List Template.Row) :
    shownCode (row :: rows) = visibleText row.codeBlock :: shownCode rows := by
  unfold shownCode
  rw [List.map_cons, List.filter_cons_of_pos (by simp [h]), List.map_cons]

/-- **Rows that show segments** show their code. -/
theorem shownCode_of_shows (h : List.Forall₂ Shows rows segments) :
    shownCode rows = Source.codes segments := by
  induction h with
  | nil => rfl
  | @cons row s rows segments hs _ ih =>
    by_cases hc : s.code = []
    · rw [shownCode_cons_of_empty (hs.1 hc), Source.codes_cons_of_empty hc, ih]
    · obtain ⟨hn, hv⟩ := hs.2 hc
      rw [shownCode_cons_of_code hn, Source.codes_cons_of_code hc, hv, ih]

/-! ## The rows of segments -/

/-- The steps of a page can be done for a whole list if they can be done for each element. -/
theorem mapM_ok {α β ε : Type} {f : α → Except ε β} {P : β → α → Prop} {as : List α}
    (h : ∀ a ∈ as, ∃ b, f a = .ok b ∧ P b a) : ∃ bs, as.mapM f = .ok bs ∧ List.Forall₂ P bs as := by
  induction as with
  | nil => exact ⟨[], rfl, .nil⟩
  | cons a rest ih =>
    obtain ⟨b, hb, hp⟩ := h a List.mem_cons_self
    obtain ⟨bs, hbs, hps⟩ := ih fun a' ha => h a' (List.mem_cons_of_mem _ ha)
    refine ⟨b :: bs, ?_, .cons hp hps⟩
    rw [List.mapM_cons, hb, hbs]
    rfl

/-- **A page has the rows** of its description, of its segments and of its transcript. -/
theorem rows_eq_ok {middle : List Template.Row} (h : x.segments.mapM k.segmentRow = .ok middle)
    (markup : List Char) : k.rows x markup =
      .ok ({ markdown := Markdown.toHtml x.description, codeBlock := [] }
        :: (middle ++ [{ markdown := [], codeBlock := markup }])) := by
  unfold Look.rows
  rw [h]
  rfl

theorem segmentRow_eq_ok {html : List Char} (h : k.code s.code = .ok html) :
    k.segmentRow s = .ok { markdown := Markdown.toHtml s.documentation, codeBlock := html } := by
  unfold Look.segmentRow
  rw [h]
  rfl

/-- Markup between tags is not empty. -/
theorem highlight_ne_nil {r : Registry} {text html : List Char} {language : String} {theme : Theme}
    (h : r.highlight text language theme = .ok html) : html ≠ [] := by
  obtain ⟨g, tokens, -, -, rfl⟩ := highlight_eq_ok.1 h
  unfold format closing
  intro hn
  have hc := (List.append_eq_nil_iff.1 hn).2
  cases hc

theorem not_mem_theme_name {theme : Theme} (h : theme ∈ Theme.all) : '>' ∉ theme.name.toList := by
  unfold Theme.all at h
  simp only [List.mem_cons, List.not_mem_nil, or_false] at h
  rcases h with rfl | rfl
  · decide
  · decide

/-- **The row of a segment shows it**, if its code has tokens in the language of the page. -/
theorem segmentRow_shows {r : Registry} {g : Grammar} (hk : k.highlighter = r.highlighter)
    (ht : k.theme ∈ Theme.all) (hg : r.find? k.language = some g)
    (hs : s.code ≠ [] → ∃ tokens, g.tokenize s.code = .ok tokens) :
    ∃ row, k.segmentRow s = .ok row ∧ Shows row s := by
  by_cases hc : s.code = []
  · have hcode : k.code s.code = .ok [] := by
      unfold Look.code
      rw [hc]
      rfl
    exact ⟨_, segmentRow_eq_ok hcode, fun _ => rfl, fun hn => absurd hc hn⟩
  · obtain ⟨tokens, htokens⟩ := hs hc
    have hhigh := highlight_eq_ok.2
      ⟨g, tokens, hg, htokens, (rfl : format k.theme.name tokens = _)⟩
    have hcode : k.code s.code = .ok (format k.theme.name tokens) := by
      unfold Look.code
      rw [if_neg (by rwa [List.isEmpty_iff]), hk]
      exact hhigh
    refine ⟨_, segmentRow_eq_ok hcode, fun hn => absurd hn hc, fun _ => ⟨?_, ?_⟩⟩
    · exact highlight_ne_nil hhigh
    · exact visibleText_highlight (not_mem_theme_name ht) hhigh

/-- **From source to page no code line is lost, doubled, moved or changed.** If the grammar of the
language has tokens for the code of each segment, then there are the rows of the page: one for each
segment and two more. What one sees of the code blocks between the first row, which has no code,
and the last row, which has the transcript, is the code of the source after its header, line by
line and without the blanks at the ends of lines. -/
theorem rows_show_source (r : Registry) (g : Grammar) (theme : Theme) (language siteTitle : String)
    (text : List Char) (headerLines : Nat) (e : Entry) (digest : String) (markup : List Char)
    (ht : theme ∈ Theme.all) (hg : r.find? language = some g)
    (hs : ∀ s ∈ (Source.Example.read text headerLines).segments, s.code ≠ [] →
      ∃ tokens, g.tokenize s.code = .ok tokens) :
    let segments := (Source.Example.read text headerLines).segments
    ∃ rows, ({ highlighter := r.highlighter, theme, language, siteTitle } : Look).rows
        (Example.ofEntry e (Source.Example.read text headerLines) digest) markup = .ok rows ∧
      rows.length = segments.length + 2 ∧
      rows.head?.map Template.Row.codeBlock = some [] ∧
      rows.getLast?.map Template.Row.codeBlock = some markup ∧
      joinLines (shownCode ((rows.drop 1).take segments.length)) =
        joinLines ((((lines text).drop headerLines).filter
          fun line => Source.classify line ≠ .blank ∧ Source.classify line ≠ .documentation).map
            trimEnd) := by
  intro segments
  let k : Look := { highlighter := r.highlighter, theme, language, siteTitle }
  have hrow : ∀ s ∈ segments, ∃ row, k.segmentRow s = .ok row ∧ Shows row s :=
    fun s hmem => segmentRow_shows rfl ht hg (hs s hmem)
  -- the rows between the first one and the last one show the segments
  obtain ⟨middle, hm, hshows⟩ := mapM_ok hrow
  have hlen : middle.length = segments.length := hshows.length_eq
  refine ⟨_, rows_eq_ok hm markup, ?_, rfl, ?_, ?_⟩
  · rw [List.length_cons, List.length_append, hlen]
    rfl
  · rw [← List.cons_append, List.getLast?_concat]
    rfl
  · rw [List.drop_one, List.tail_cons, ← hlen, List.take_left, shownCode_of_shows hshows,
      Source.joinLines_codes_read]
    unfold Source.codeLines
    congr 2
    refine List.filter_congr fun line _ => ?_
    cases Source.classify line <;> decide

/-- Two segments in a language that has no rules. -/
theorem rows_show_source_plain :
    let g : Grammar := { name := "raw", states := [("root", [])] }
    let text := "// Intro\nlet a = '<'\n\n# More\nf(a) \n".toList
    let k : Look := ⟨(Registry.builtin.register g).highlighter, .github, "raw", "Site"⟩
    ∀ e digest, ∃ rows, k.rows (Example.ofEntry e (Source.Example.read text 0) digest) ['T'] =
        .ok rows ∧ rows.length = 4 ∧
      joinLines (shownCode ((rows.drop 1).take 2)) = "let a = '<'\nf(a)".toList := by
  intro g text k e digest
  -- without rules a scan takes one character after the other
  have hscan : ∀ cs, ∃ tokens, g.scan "root" cs = .ok tokens := by
    intro cs
    induction cs with
    | nil => exact ⟨[], by rw [Grammar.scan]⟩
    | cons c cs ih =>
      obtain ⟨tokens, ht⟩ := ih
      refine ⟨⟨.text, [c]⟩ :: tokens, ?_⟩
      rw [Grammar.scan]
      simp [show g.rules? "root" = some [] from rfl, stepOf, ht]
  have htokens : ∀ cs, ∃ tokens, g.tokenize cs = .ok tokens := by
    intro cs
    obtain ⟨tokens, ht⟩ := hscan cs
    refine ⟨coalesce tokens, ?_⟩
    unfold Grammar.tokenize
    rw [show Grammar.rootState = "root" from rfl, ht]
    rfl
  have hfind : (Registry.builtin.register g).find? "raw" = some g := by
    unfold Registry.find? Registry.register
    exact List.find?_cons_of_pos (by decide +kernel)
  have hsegments : (Source.Example.read text 0).segments.length = 2 := by decide +kernel
  obtain ⟨rows, hrows, hlen, -, -, hcode⟩ := rows_show_source (Registry.builtin.register g) g .github
    "raw" "Site" text 0 e digest ['T'] (by decide) hfind fun s _ _ => htokens s.code
  rw [hsegments] at hlen hcode
  refine ⟨rows, hrows, hlen, hcode.trans ?_⟩
  decide +kernel

end LiterateSite.Site
