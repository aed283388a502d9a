import LiterateSite.Text.Line

/-!
# Lines of a text, character by character

* `lines_cons`: a character that ends no line stands in front of the first line of what follows.
* `not_mem_of_mem_lines`: no line holds a line end.
* `lines_append`, `lines_append_crlf`: the first line of a text, up to its end.
* `mem_of_mem_lines`: a line is made of characters of its text.
* `lines_unended`: a text without line end.
* `lines_ended`: **lines that are written with an end each are read as they are**, if none of them
  holds a line end or ends with a `\r`.
-/

namespace LiterateSite.Text

variable {c : Char} {line rest text : List Char} {texts : List (List Char)}

/-- A character in front of the first line; a line of its own if there is none. -/
def intoFirst (c : Char) : List (List Char) → List (List Char)
  | [] => [[c]]
  | line :: later => (c :: line) :: later

theorem lines_cons (hn : c ≠ '\n') (hr : ∀ later, c = '\r' → rest ≠ '\n' :: later) :
    lines (c :: rest) = intoFirst c (lines rest) := by
  rw [lines.eq_4 c rest hn hr]
  cases lines rest <;> rfl

/-- **No line holds a line end.** -/
theorem not_mem_of_mem_lines (h : line ∈ lines text) : '\n' ∉ line := by
  fun_induction lines text generalizing line with
  | case1 => exact absurd h List.not_mem_nil
  | case2 rest ih | case3 rest ih =>
    rcases List.mem_cons.1 h with rfl | h
    · exact List.not_mem_nil
    · exact ih h
  | case4 c rest hn hr hl ih =>
    rw [List.mem_singleton.1 h, List.mem_singleton]
    exact fun hc => hn hc.symm
  | case5 c rest hn hr first later hl ih =>
    rcases List.mem_cons.1 h with rfl | h
    · rw [List.mem_cons, not_or]
      exact ⟨fun hc => hn hc.symm, ih (hl ▸ List.mem_cons_self)⟩
    · exact ih (hl ▸ List.mem_cons_of_mem _ h)

/-- The first line of a text. -/
theorem lines_append (hn : '\n' ∉ line) (hr : line.getLast? ≠ some '\r') (rest : List Char) :
    lines (line ++ '\n' :: rest) = line :: lines rest := by
  induction line with
  | nil => rfl
  | cons c line ih =>
    rw [List.mem_cons, not_or] at hn
    -- a `\r` in the line is not at its end, so what follows it is no line end
    have hnext : ∀ later, c = '\r' → line ++ '\n' :: rest ≠ '\n' :: later := by
      intro later hc
      cases line with
      | nil => exact absurd (congrArg some hc) hr
      | cons d line => exact fun h => hn.2 ((List.cons.inj h).1 ▸ List.mem_cons_self)
    have hlast : line.getLast? ≠ some '\r' := by
      cases line with
      | nil => exact (Option.some_ne_none _).symm
      | cons d line => rwa [List.getLast?_cons_cons] at hr
    rw [List.cons_append, lines_cons (fun h => hn.1 h.symm) hnext, ih hn.2 hlast]
    rfl

/-- A line is made of characters of its text. -/
theorem mem_of_mem_lines (h : line ∈ lines text) (hc : c ∈ line) : c ∈ text := by
  fun_induction lines text generalizing line with
  | case1 => exact absurd h List.not_mem_nil
  | case2 rest ih =>
    rcases List.mem_cons.1 h with rfl | h
    · exact absurd hc List.not_mem_nil
    · exact List.mem_cons_of_mem _ (ih h hc)
  | case3 rest ih =>
    rcases List.mem_cons.1 h with rfl | h
    · exact absurd hc List.not_mem_nil
    · exact List.mem_cons_of_mem _ (List.mem_cons_of_mem _ (ih h hc))
  | case4 d rest hn hr hl ih =>
    rw [List.mem_singleton.1 h] at hc
    rw [List.mem_singleton.1 hc]
    exact List.mem_cons_self
  | case5 d rest hn hr first later hl ih =>
    rcases List.mem_cons.1 h with rfl | h
    · rcases List.mem_cons.1 hc with rfl | hc
      · exact List.mem_cons_self
      · exact List.mem_cons_of_mem _ (ih (hl ▸ List.mem_cons_self) hc)
    · exact List.mem_cons_of_mem _ (ih (hl ▸ List.mem_cons_of_mem _ h) hc)

/-- The first line of a text, if it ends with two characters. -/
theorem lines_append_crlf (hn : '\n' ∉ line) (rest : List Char) :
    lines (line ++ '\r' :: '\n' :: rest) = line :: lines rest := by
  induction line with
  | nil => rfl
  | cons c line ih =>
    rw [List.mem_cons, not_or] at hn
    have hnext : ∀ later, c = '\r' → line ++ '\r' :: '\n' :: rest ≠ '\n' :: later := by
      intro later _
      cases line with
      | nil => exact fun h => absurd (List.cons.inj h).1 (by decide)
      | cons d line => exact fun h => hn.2 ((List.cons.inj h).1 ▸ List.mem_cons_self)
    rw [List.cons_append, lines_cons (fun h => hn.1 h.symm) hnext, ih hn.2]
    rfl

/-- A text without line end is one line. -/
theorem lines_unended (hn : '\n' ∉ line) (hne : line ≠ []) : lines line = [line] := by
  induction line with
  | nil => exact absurd rfl hne
  | cons c line ih =>
    rw [List.mem_cons, not_or] at hn
    have hnext : ∀ later, c = '\r' → line ≠ '\n' :: later := by
      rintro later _ rfl
      exact hn.2 List.mem_cons_self
    rw [lines_cons (fun h => hn.1 h.symm) hnext]
    cases line with
    | nil => rfl
    | cons d line => rw [ih hn.2 (List.cons_ne_nil _ _)]; rfl

/-- **Lines that are written with an end each** are read as they are. -/
theorem lines_ended (hn : ∀ line ∈ texts, '\n' ∉ line)
    (hr : ∀ line ∈ texts, line.getLast? ≠ some '\r') :
    lines (texts.flatMap fun line => line ++ ['\n']) = texts := by
  induction texts with
  | nil => rfl
  | cons line texts ih =>
    have hmem : line ∈ line :: texts := List.mem_cons_self
    rw [List.flatMap_cons, List.append_assoc, List.singleton_append,
      lines_append (hn line hmem) (hr line hmem),
      ih (fun l hl => hn l (List.mem_cons_of_mem _ hl))
        fun l hl => hr l (List.mem_cons_of_mem _ hl)]

end LiterateSite.Text
