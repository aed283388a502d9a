import Mathlib.Data.List.Infix
import LiterateSite.Files.Path

/-!
# The steps of joined paths and of a parent

* `Path.parts`: the steps of a path without the slash at its end.
* `split_append_slash`, `split_plain`: what splitting does at a slash, and without one.
* `parts_join`: **the steps to a path below another one** are those of both, one after the other.
* `parts_trimEnd`: text that is trimmed from the end holds no step but dots.
* `parent?_parts`: **the steps to the parent** are the first steps to the path.
-/

namespace LiterateSite.Files.Path

variable {p q : Path} {cs : List Char}

/-- The steps of a path, without the slash at its end. -/
def parts (p : Path) : List Step := (split p.chars).filterMap step?

/-- A name that is one step down: it is not empty, has no slash, and is no dot and no pair of
dots. -/
structure PlainName (cs : List Char) : Prop where
  ne_nil : cs ≠ []
  no_slash : '/' ∉ cs
  no_dot : cs ≠ ['.']
  no_dots : cs ≠ ['.', '.']

instance (cs : List Char) : Decidable (PlainName cs) :=
  decidable_of_iff (cs ≠ [] ∧ '/' ∉ cs ∧ cs ≠ ['.'] ∧ cs ≠ ['.', '.'])
    ⟨fun h => ⟨h.1, h.2.1, h.2.2.1, h.2.2.2⟩, fun h => ⟨h.1, h.2, h.3, h.4⟩⟩

theorem steps_eq (p : Path) :
    p.steps = p.parts ++ (if p.chars.getLast? == some '/' then [.slash] else []) := rfl

/-! ## Splitting -/

theorem split_slash (cs : List Char) : split ('/' :: cs) = [] :: split cs := rfl

theorem split_ne_nil (cs : List Char) : split cs ≠ [] := by
  cases cs with
  | nil => exact List.cons_ne_nil _ _
  | cons c cs =>
    unfold split
    by_cases hc : (c == '/') = true
    · rw [if_pos hc]; exact List.cons_ne_nil _ _
    · rw [if_neg hc]
      cases split cs <;> exact List.cons_ne_nil _ _

/-- Another character belongs to the first part. -/
theorem split_cons {c : Char} (hc : c ≠ '/') {cs part : List Char} {rest : List (List Char)}
    (h : split cs = part :: rest) : split (c :: cs) = (c :: part) :: rest := by
  rw [split, if_neg (by simpa using hc), h]

/-- **A slash** splits a text in two. -/
theorem split_append_slash (a b : List Char) : split (a ++ '/' :: b) = split a ++ split b := by
  induction a with
  | nil => rfl
  | cons c a ih =>
    rw [List.cons_append]
    -- another character joins the first part, on both sides alike
    by_cases hc : c = '/'
    · rw [hc, split_slash, split_slash, ih, List.cons_append]
    · obtain ⟨part, rest, h⟩ := List.exists_cons_of_ne_nil (split_ne_nil a)
      rw [h, List.cons_append] at ih
      rw [split_cons hc ih, split_cons hc h, List.cons_append]

theorem split_plain (h : '/' ∉ cs) : split cs = [cs] := by
  induction cs with
  | nil => rfl
  | cons c cs ih =>
    rw [List.mem_cons, not_or] at h
    exact split_cons (fun hc => h.1 hc.symm) (ih h.2)

/-- No part has a slash. -/
theorem split_no_slash (cs : List Char) : ∀ part ∈ split cs, '/' ∉ part := by
  induction cs with
  | nil =>
    intro part hp
    rw [List.mem_singleton.1 hp]
    exact List.not_mem_nil
  | cons c cs ih =>
    by_cases hc : c = '/'
    · subst hc
      intro part hp
      rw [split_slash] at hp
      rcases List.mem_cons.1 hp with rfl | hp
      · exact List.not_mem_nil
      · exact ih part hp
    · obtain ⟨first, rest, hs⟩ := List.exists_cons_of_ne_nil (split_ne_nil cs)
      intro part hp
      rw [split_cons hc hs] at hp
      rw [hs] at ih
      rcases List.mem_cons.1 hp with rfl | hp
      · rw [List.mem_cons, not_or]
        exact ⟨Ne.symm hc, ih first List.mem_cons_self⟩
      · exact ih part (List.mem_cons_of_mem _ hp)

theorem PlainName.step? (h : PlainName cs) : step? cs = some (.name (.text cs)) := by
  have h1 : cs.isEmpty = false := List.isEmpty_eq_false_iff.2 h.ne_nil
  have h2 : (cs == ['.']) = false := beq_eq_false_iff_ne.2 h.no_dot
  have h3 : (cs == ['.', '.']) = false := beq_eq_false_iff_ne.2 h.no_dots
  unfold Path.step?
  rw [h1, h2, h3]
  rfl

theorem parts_slash (a : List Char) : parts ⟨a ++ ['/']⟩ = parts ⟨a⟩ := by
  unfold parts
  rw [split_append_slash a [], List.filterMap_append]
  exact List.append_nil _

theorem parts_dot (a : List Char) : parts ⟨a ++ ['/', '.']⟩ = parts ⟨a⟩ ++ [.here] := by
  unfold parts
  rw [split_append_slash a ['.'], List.filterMap_append]
  rfl

theorem parts_plain (h : PlainName cs) : parts ⟨cs⟩ = [.name (.text cs)] := by
  unfold parts
  rw [split_plain h.no_slash, List.filterMap_cons, h.step?]
  rfl

/-! ## Joining -/

theorem isAbsolute_plain (h : '/' ∉ cs) : (⟨cs⟩ : Path).isAbsolute = false := by
  unfold isAbsolute
  cases cs with
  | nil => rfl
  | cons c cs =>
    rw [List.mem_cons, not_or] at h
    simpa using fun hc => h.1 hc.symm

theorem getLast?_slash (h : cs.getLast? = some '/') : ∃ a, cs = a ++ ['/'] :=
  ⟨cs.dropLast, (List.dropLast_append_getLast? '/' h).symm⟩

/-- **The steps to a path below another one.** -/
theorem parts_join (h : q.isAbsolute = false) : (p.join q).parts = p.parts ++ q.parts := by
  unfold join
  rw [h, if_neg Bool.false_ne_true]
  -- a slash is put between the paths, unless the first one is empty or ends with one
  by_cases he : p.chars = []
  · have hp : p.parts = [] := by unfold parts; rw [he]; rfl
    rw [if_pos (by simp [he]), hp, he]
    rfl
  · by_cases hs : p.chars.getLast? = some '/'
    · obtain ⟨a, ha⟩ := getLast?_slash hs
      have hp : p.parts = parts ⟨a⟩ := by
        rw [← parts_slash a, ← ha]
      rw [if_pos (by simp [hs]), hp]
      unfold parts
      rw [ha, List.append_assoc, List.singleton_append, split_append_slash, List.filterMap_append]
    · rw [if_neg (by simp [he, hs])]
      unfold parts
      rw [split_append_slash, List.filterMap_append]

theorem isAbsolute_join (h : q.isAbsolute = false) : (p.join q).isAbsolute = p.isAbsolute := by
  unfold join
  rw [h, if_neg Bool.false_ne_true]
  cases hp : p.chars with
  | nil =>
    have hq : p.isAbsolute = false := by unfold isAbsolute; rw [hp]; rfl
    rw [hq]
    exact h
  | cons c cs =>
    unfold isAbsolute
    split
    · rw [hp]; rfl
    · rw [hp]; rfl

/-! ## Parents -/

/-- **What is trimmed from the end** holds no step but dots, and is the end of the text. -/
theorem trimEnd_go_parts (n : Nat) : ∀ rs : List Char, rs.length ≤ n →
    (∃ more, rs.reverse = trimEnd.go rs ++ more) ∧
      ∃ more, parts ⟨rs.reverse⟩ = parts ⟨trimEnd.go rs⟩ ++ more := by
  -- on a bound of the length, since a dot and the slash before it go together
  induction n with
  | zero =>
    intro rs h
    rw [List.length_eq_zero_iff.1 (Nat.le_zero.1 h)]
    exact ⟨⟨[], rfl⟩, [], rfl⟩
  | succ n ih =>
    intro rs h
    have hself : (∃ more, rs.reverse = rs.reverse ++ more) ∧
        ∃ more, parts ⟨rs.reverse⟩ = parts ⟨rs.reverse⟩ ++ more :=
      ⟨⟨[], (List.append_nil _).symm⟩, [], (List.append_nil _).symm⟩
    rw [trimEnd.go.eq_def]
    split
    · exact ⟨⟨[], rfl⟩, [], (List.append_nil _).symm⟩
    · next rest _ =>
      obtain ⟨⟨m, hm⟩, k, hk⟩ := ih rest (by simp only [List.length_cons] at h; omega)
      rw [List.reverse_cons]
      refine ⟨⟨m ++ ['/'], ?_⟩, k, ?_⟩
      · rw [← List.append_assoc, ← hm]
      · rw [parts_slash, hk]
    · next rest =>
      obtain ⟨⟨m, hm⟩, k, hk⟩ := ih ('/' :: rest) (by simp only [List.length_cons] at h ⊢; omega)
      have hr : ('.' :: '/' :: rest).reverse = rest.reverse ++ ['/', '.'] := by simp
      rw [List.reverse_cons] at hm hk
      rw [hr]
      refine ⟨⟨m ++ ['.'], ?_⟩, k ++ [.here], ?_⟩
      · rw [← List.append_assoc, ← hm, List.append_assoc]
        rfl
      · rw [parts_dot, ← List.append_assoc, ← hk, parts_slash]
    · exact hself

theorem parts_trimEnd (cs : List Char) : ∃ more, parts ⟨cs⟩ = parts ⟨trimEnd cs⟩ ++ more := by
  have h := (trimEnd_go_parts cs.reverse.length cs.reverse (Nat.le_refl _)).2
  rwa [List.reverse_reverse] at h

theorem trimEnd_prefix (cs : List Char) : ∃ more, cs = trimEnd cs ++ more := by
  have h := (trimEnd_go_parts cs.reverse.length cs.reverse (Nat.le_refl _)).1
  rwa [List.reverse_reverse] at h

/-- The last part of a text, and the text before it, which is empty or ends with a slash. -/
theorem last_split (p : Path) : trimEnd p.chars = p.last.1 ++ p.last.2 ∧
    (p.last.1 = [] ∨ ∃ a, p.last.1 = a ++ ['/']) := by
  unfold last
  simp only
  generalize trimEnd p.chars = chars
  -- the last part goes back to the last slash
  have hsplit := List.takeWhile_append_dropWhile (p := (· != '/')) (l := chars.reverse)
  have hchars : chars = (chars.reverse.dropWhile (· != '/')).reverse ++
      (chars.reverse.takeWhile (· != '/')).reverse := by
    rw [← List.reverse_append, hsplit, List.reverse_reverse]
  have hbefore : chars.take (chars.length - (chars.reverse.takeWhile (· != '/')).reverse.length) =
      (chars.reverse.dropWhile (· != '/')).reverse := by
    have hlen := congrArg List.length hchars
    rw [List.length_append] at hlen
    conv_lhs => rw [hchars]
    rw [List.take_append_of_le_length (by rw [← hchars]; omega), List.take_of_length_le]
    rw [← hchars]
    omega
  rw [hbefore]
  refine ⟨hchars, ?_⟩
  cases hd : chars.reverse.dropWhile (· != '/') with
  | nil => exact .inl rfl
  | cons c rest =>
    have hc : ¬ (c != '/') = true := by
      have h := List.head?_dropWhile_not (· != '/') chars.reverse
      rw [hd] at h
      simpa using h
    have hc' : c = '/' := by simpa using hc
    refine .inr ⟨rest.reverse, ?_⟩
    rw [List.reverse_cons, hc']

/-- **The steps to the parent** are the first steps to the path, and its text is the beginning of
that of the path. -/
theorem parent?_parts (h : p.parent? = some q) :
    (∃ more, p.chars = q.chars ++ more) ∧ ∃ more, p.parts = q.parts ++ more := by
  obtain ⟨hl, hbefore⟩ := last_split p
  unfold parent? at h
  simp only at h
  split at h
  · exact absurd h.symm (Option.some_ne_none _)
  · rw [← Option.some.inj h]
    obtain ⟨m₁, h₁⟩ := trimEnd_prefix p.chars
    obtain ⟨m₂, h₂⟩ := trimEnd_prefix p.last.1
    obtain ⟨k₁, e₁⟩ := parts_trimEnd p.chars
    obtain ⟨k₂, e₂⟩ := parts_trimEnd p.last.1
    refine ⟨⟨m₂ ++ p.last.2 ++ m₁, ?_⟩, ?_⟩
    · calc p.chars = trimEnd p.chars ++ m₁ := h₁
        _ = p.last.1 ++ p.last.2 ++ m₁ := by rw [hl]
        _ = trimEnd p.last.1 ++ m₂ ++ p.last.2 ++ m₁ := by rw [← h₂]
        _ = _ := by simp only [List.append_assoc]
    · rcases hbefore with hb | ⟨a, hb⟩
      · refine ⟨p.parts, ?_⟩
        rw [hb]
        rfl
      · -- the slash at the end of the text before the last part describes no step
        have hp : parts ⟨trimEnd p.chars⟩ = parts ⟨p.last.1⟩ ++ parts ⟨p.last.2⟩ := by
          rw [hl, hb, parts_slash]
          unfold parts
          rw [List.append_assoc, List.singleton_append, split_append_slash, List.filterMap_append]
        refine ⟨k₂ ++ parts ⟨p.last.2⟩ ++ k₁, ?_⟩
        calc p.parts = parts ⟨trimEnd p.chars⟩ ++ k₁ := e₁
          _ = parts ⟨trimEnd p.last.1⟩ ++ k₂ ++ parts ⟨p.last.2⟩ ++ k₁ := by rw [hp, e₂]
          _ = _ := by simp only [List.append_assoc]

end LiterateSite.Files.Path
