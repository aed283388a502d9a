import Mathlib.Data.List.TakeWhile
import LiterateSite.Proofs.Pattern.Follows

/-!
# Patterns in a group that is bound to the start

What a rule does with a written pattern is to put it into a group behind `^`. Reading the group
gives the pattern behind the bound, if the pattern can be read on its own.

* `framed_escape`, `agrees_classBody`, `agrees_item`: each reader gives the same before the bracket.
* `agrees_alternatives`: **so does the reader of patterns**, whatever room it is given.
* `run_enclosed`: how the group is read.
* `Pattern.read_enclosed`: the pattern of the group.
-/

namespace LiterateSite.PatternReader

open Text

variable {s t : State} {β : Type}

/-! ## Escapes -/

theorem framed_braced : Framed braced := by
  unfold braced
  exact framed_skipSpaced.bind fun _ => .takeUntil (by decide) fun body => .ret body

theorem framed_charOf (n : Nat) : Framed (charOf n) := .ite (.ret _) (.fail _)

theorem framed_hexChar (digits : List Char) : Framed (hexChar digits) := by
  unfold hexChar
  split
  · exact framed_charOf _
  · exact .fail _

theorem framed_hexEscape (digits : Nat) : Framed (hexEscape digits) := by
  unfold hexEscape
  refine (framed_accept (by decide)).bind fun _ => .ite ?_ ?_
  · exact framed_braced.bind fun _ => framed_hexChar _
  · refine (framed_takeSpaced (by decide) _).bind fun body => .ite ?_ ?_
    · exact .fail _
    · exact framed_hexChar body

theorem framed_propertyEscape (negated : Bool) : Framed (propertyEscape negated) := by
  unfold propertyEscape
  refine .read fun _ _ flags _ _ => ?_
  dsimp only
  refine .ite (.fail _) ?_
  refine framed_skipSpaced.bind fun _ => (framed_accept (by decide)).bind fun _ => ?_
  refine .ite (framed_braced.bind fun name => ?_) (framed_next.bind fun c => .ite (.fail _) ?_)
  · split
    · exact .ret _
    · exact .fail _
  · refine (Agrees.ret _).bind fun name => ?_
    split
    · exact .ret _
    · exact .fail _

theorem framed_classEscape (unicode ascii : CharSet) (negated : Bool) :
    Framed (classEscape unicode ascii negated) := by
  unfold classEscape
  refine .read fun _ _ flags _ _ => ?_
  dsimp only
  exact .ite (.ret _) (.ite (.fail _) (.ret _))

theorem framed_edgeEscape : Framed edgeEscape := by
  unfold edgeEscape
  refine .read fun rest rest' flags names h => ?_
  dsimp only
  refine (framed_accept (by decide)).bind fun _ => .ite ?_ (.ret _)
  refine framed_skipSpaced.bind fun _ => .peek (fun c => ?_) (.fail _) (.fail _)
  refine .ite ((Agrees.write h).bind fun _ => .ret _) ?_
  refine .takeLeft (by decide) fun name => (framed_require _).bind fun _ => ?_
  split
  · exact .ret _
  · exact .ret _
  · exact .ret _
  · exact .ret _
  · exact .fail _

theorem framed_byteEscape : Framed byteEscape := by
  unfold byteEscape
  refine .read fun _ _ flags _ _ => ?_
  dsimp only
  refine framed_skipSpaced.bind fun _ => ?_
  refine .peek (fun c => ?_) ?_ ?_
  · exact (framed_hexEscape 2).bind fun c => .ite (.fail _) (.ret _)
  · exact (framed_hexEscape 2).bind fun c => .ite (.fail _) (.ret _)
  · -- neither the end nor the bracket opens braces
    rw [show (some ')' == some '\x7b') = (none == some '\x7b') from rfl]
    exact (framed_hexEscape 2).bind fun c => .ite (.fail _) (.ret _)

theorem framed_escape : Framed escape := by
  unfold escape
  refine framed_next.bind fun c => .read fun _ _ flags _ _ => ?_
  dsimp only
  split
  · exact framed_byteEscape
  · exact framed_skipSpaced.bind fun _ => (framed_hexEscape 4).bind fun _ => .ret _
  · exact framed_skipSpaced.bind fun _ => (framed_hexEscape 8).bind fun _ => .ret _
  · exact framed_propertyEscape false
  · exact framed_propertyEscape true
  iterate 6 exact framed_classEscape _ _ _
  iterate 8 exact .ret _
  · exact framed_edgeEscape
  iterate 3 exact .ret _
  · exact .ite (.ret _) (.fail _)

/-! ## Classes -/

theorem framed_classItem : Framed classItem := by
  unfold classItem
  refine framed_next.bind fun c => .ite (framed_escape.bind fun found => ?_) (.ret _)
  cases found with
  | look => exact .fail _
  | char | set => exact .ret _

theorem framed_itemSet (found : Escape) : Framed (itemSet found) := by
  cases found with
  | char c =>
    refine .read fun _ _ flags _ _ => ?_
    exact .ite (.fail _) (.ret _)
  | set => exact .ret _
  | look => exact .fail _

theorem framed_setOperation : Framed setOperation? := by
  unfold setOperation?
  refine (framed_accept (by decide)).bind fun _ => .ite (.ret _) ?_
  refine (framed_accept (by decide)).bind fun _ => .ite (.ret _) ?_
  exact (framed_accept (by decide)).bind fun _ => .ite (.ret _) (.ret _)

theorem agrees_rangeFrom (first : Escape) (h : Follows s t) :
    Agrees (rangeFrom first s) (rangeFrom first t) := by
  unfold rangeFrom
  cases hs : s.rest with
  | nil =>
    -- nothing is left for an end
    intro s₁ t₁ h₁ a s' b t' hm
    obtain ⟨u, s₂, hset, hm⟩ := run_bind.1 hm
    cases hset
    obtain ⟨x, s₃, hitem, -⟩ := run_bind.1 hm
    obtain ⟨c, s₄, hnext, -⟩ := run_bind.1 hitem
    obtain ⟨rest, hr, -⟩ := run_next.1 hnext
    rw [hs] at hr
    cases hr
  | cons c rest =>
    rw [h.cons hs, h.flags]
    split
    · rename_i tail hc
      cases hc
      exact framed_itemSet _
    · rename_i tail hc
      cases hc
      exact framed_itemSet _
    · rename_i hclose hhyphen
      split
      · rename_i tail hc
        cases hc
        exact absurd rfl (hclose rest)
      · rename_i tail hc
        cases hc
        exact absurd rfl (hhyphen rest)
      · refine (Agrees.write h).bind fun _ => framed_classItem.bind fun last => ?_
        split
        · exact .ite (.fail _) (.ite (.ret _) (.fail _))
        · exact .fail _

theorem framed_classRange : Framed classRange := by
  unfold classRange
  refine framed_classItem.bind fun first => framed_skipSpaced.bind fun _ => ?_
  refine .read fun rest rest' flags names h => ?_
  dsimp only
  cases rest with
  | nil => exact .fail _
  | cons c rest =>
    obtain rfl : rest' = c :: (rest ++ [')']) := h.cons rfl
    split
    · cases ‹c :: rest = []›
    · rename_i after hc
      cases hc
      refine agrees_rangeFrom first ⟨rfl, rfl, ?_⟩
      dsimp only
      split
      · exact dropSpaced_append _ false
      · exact Or.inl rfl
    · rename_i hother
      split
      · cases ‹c :: (rest ++ [')']) = []›
      · rename_i after hc
        cases hc
        exact absurd rfl (hother rest)
      · exact framed_itemSet _

/-- The bracket stands after what the name of a class leaves. -/
theorem closedName_append (text : List Char) : closedName? (text ++ [')']) =
    (closedName? text).map fun found => (found.1, found.2 ++ [')']) := by
  unfold closedName?
  cases hd : text.dropWhile (· != ':') with
  | nil =>
    -- no colon, nor one in the bracket
    have hall : ∀ c ∈ text ++ [')'], (c != ':') = true := by
      intro c hc
      rcases List.mem_append.1 hc with hc | hc
      · exact List.dropWhile_eq_nil_iff.1 hd c hc
      · rw [List.mem_singleton.1 hc]
        rfl
    rw [List.dropWhile_eq_nil_iff.2 hall]
    rfl
  | cons c after =>
    have hne : text.dropWhile (· != ':') ≠ [] := by
      rw [hd]
      exact List.cons_ne_nil _ _
    obtain ⟨htake, hdrop⟩ := takeWhile_bracket (Or.inr hne)
    rw [htake, hdrop, hd]
    split
    · rename_i rest hc
      have hafter : ∃ rest', after = ']' :: rest' ∧ rest = rest' ++ [')'] := by
        cases after with
        | nil => cases hc
        | cons d after =>
          cases hc
          exact ⟨after, rfl, rfl⟩
      obtain ⟨rest', rfl, rfl⟩ := hafter
      cases hc
      rfl
    · rename_i hother
      split
      · rename_i rest hc
        cases hc
        exact absurd rfl (hother (rest ++ [')']))
      · rfl

theorem framed_asciiClass : Framed asciiClass? := by
  unfold asciiClass?
  refine .read fun rest rest' flags names h => ?_
  dsimp only
  by_cases hopen : ∃ after, rest = '[' :: ':' :: after
  · obtain ⟨after, rfl⟩ := hopen
    obtain rfl : rest' = '[' :: ':' :: (after ++ [')']) := h.cons rfl
    have hhead : ((after ++ [')']).head? == some '^') = (after.head? == some '^') := by
      cases after <;> rfl
    have hbody : (if after.head? == some '^' then (after ++ [')']).drop 1 else after ++ [')']) =
        (if after.head? == some '^' then after.drop 1 else after) ++ [')'] := by
      cases after with
      | nil => rfl
      | cons c after => split <;> rfl
    simp only [hhead, hbody, closedName_append]
    cases closedName? (if after.head? == some '^' then after.drop 1 else after) with
    | none => exact .ret _
    | some found =>
      dsimp only [Option.map_some]
      cases CharSet.asciiClass? found.1 with
      | none => exact .ret _
      | some set =>
        have hset : Follows ⟨found.2, flags, names⟩ ⟨found.2 ++ [')'], flags, names⟩ :=
          ⟨rfl, rfl, Or.inl rfl⟩
        exact .ite (.fail _) ((Agrees.write hset).bind fun _ => .ret _)
  · have hopen' : ¬∃ after, rest' = '[' :: ':' :: after := by
      rintro ⟨after, rfl⟩
      have hword : ['[', ':'] <+: rest := (h.prefix_iff (by decide)).1 ⟨after, rfl⟩
      obtain ⟨later, hlater⟩ := hword
      exact hopen ⟨later, hlater.symm⟩
    split
    · exact absurd ⟨_, rfl⟩ hopen
    · split
      · exact absurd ⟨_, rfl⟩ hopen'
      · exact .ret _

theorem framed_leadingHyphens (k : Nat) (items : ClassItems) : Framed (leadingHyphens k items) := by
  induction k generalizing items with
  | zero => exact .ret _
  | succ k ih =>
    refine (framed_accept (by decide)).bind fun _ => .ite ?_ (.ret _)
    exact framed_skipSpaced.bind fun _ => ih _

theorem run_leadingHyphens_nil (hs : s.rest = []) (k : Nat) (items : ClassItems) :
    (leadingHyphens k items).run s = some (items, s) := by
  cases k with
  | zero => rfl
  | succ k =>
    show ((accept "-").run s).bind _ = _
    rw [run_accept, hs, if_neg (by decide)]
    rfl

/-- As many hyphens as are left are as good as any larger number. -/
theorem run_leadingHyphens_of_le {k l : Nat} (hk : s.rest.length ≤ k) (hl : s.rest.length ≤ l)
    (items : ClassItems) : (leadingHyphens k items).run s = (leadingHyphens l items).run s := by
  induction k generalizing l s items with
  | zero =>
    have hs : s.rest = [] := List.eq_nil_of_length_eq_zero (Nat.le_zero.1 hk)
    rw [run_leadingHyphens_nil hs, run_leadingHyphens_nil hs]
  | succ k ih =>
    cases l with
    | zero =>
      have hs : s.rest = [] := List.eq_nil_of_length_eq_zero (Nat.le_zero.1 hl)
      rw [run_leadingHyphens_nil hs, run_leadingHyphens_nil hs]
    | succ l =>
      refine run_bind_congr fun taken s₁ haccept => ?_
      cases taken with
      | false => rfl
      | true =>
        refine run_bind_congr fun _ s₂ hskip => ?_
        have hshort := run_skipSpaced_length hskip
        have hlen := congrArg List.length (run_accept_true haccept)
        rw [List.length_append, show "-".toList.length = 1 from rfl] at hlen
        exact ih (by omega) (by omega) _

/-- The hyphens are the same, with the bracket as one more character. -/
theorem Agrees.hyphens {f g : ClassItems → Reader β} (hf : ∀ a, Agrees (f a) (g a)) :
    Agrees (left >>= fun k => leadingHyphens k {} >>= f)
      (left >>= fun k => leadingHyphens k {} >>= g) := by
  intro s t h a s' b t' hm hn
  have hm : (leadingHyphens s.rest.length {} >>= f).run s = some (a, s') := hm
  have hn : (leadingHyphens t.rest.length {} >>= g).run t = some (b, t') := hn
  have hsame := run_leadingHyphens_of_le (Nat.le_refl _) h.length_le {}
  have hm : (leadingHyphens t.rest.length {} >>= f).run s = some (a, s') :=
    (congrArg (fun r => Option.bind r _) hsame).symm.trans hm
  exact (framed_leadingHyphens _ _).bind hf h hm hn

/-- The items of a class, if the classes in it are the same. -/
theorem agrees_classParts {inner : Nat → Reader ClassPart}
    (h : ∀ k l, Agrees (inner k) (inner l)) (k l : Nat) (pending : Pending) (items : ClassItems) :
    Agrees (classParts inner k pending items) (classParts inner l pending items) := by
  induction k generalizing l pending items with
  | zero =>
    rw [classParts]
    exact .fail _
  | succ k ih =>
    cases l with
    | zero =>
      rw [classParts, classParts]
      exact .fails _
    | succ l =>
      rw [classParts, classParts]
      refine framed_skipSpaced.bind fun _ => .read fun _ _ flags _ _ => ?_
      refine (framed_accept (by decide)).bind fun _ => .ite (.ret _) ?_
      refine framed_setOperation.bind fun operation => ?_
      cases operation with
      | some operation => exact ih _ _ _
      | none =>
        refine framed_asciiClass.bind fun found => ?_
        cases found with
        | some found => exact ih _ _ _
        | none =>
          refine (framed_accept (by decide)).bind fun _ => .ite ?_ ?_
          · exact (h k l).bind fun inner => ih _ _ _
          · exact framed_classRange.bind fun set => ih _ _ _

theorem agrees_classBody (k l depth : Nat) : Agrees (classBody k depth) (classBody l depth) := by
  induction depth generalizing k l with
  | zero =>
    rw [classBody, classBody]
    exact .fail _
  | succ depth ih =>
    rw [classBody, classBody]
    refine framed_skipSpaced.bind fun _ => (framed_accept (by decide)).bind fun negated =>
      framed_skipSpaced.bind fun _ => .hyphens fun hyphens => ?_
    refine .ite ((framed_accept (by decide)).bind fun _ => .ite ?_ ?_) ?_
    all_goals
      refine (Agrees.ret _).bind fun start =>
        (agrees_classParts ih k l none start).bind fun body => ?_
      refine .read fun _ _ flags _ _ => ?_
      exact .ite (.fail _) (.ret _)

/-! ## Groups and repetitions -/

theorem agrees_flagLetters (k l : Nat) (seen : List Char) (negated dangling : Bool) :
    Agrees (flagLetters k seen negated dangling) (flagLetters l seen negated dangling) := by
  induction k generalizing l seen negated dangling with
  | zero => exact .fail _
  | succ k ih =>
    cases l with
    | zero => exact .fails _
    | succ l =>
      rw [flagLetters, flagLetters]
      refine framed_next.bind fun c => .ite (.ite (.fail _) (.ret _)) ?_
      refine .ite (.ite (.fail _) (ih _ _ _ _)) (.ite (.fail _) ?_)
      refine .read fun rest rest' flags names h => ?_
      have hset (changed : Flags) : Follows ⟨rest, changed, names⟩ ⟨rest', changed, names⟩ :=
        ⟨rfl, rfl, h.rest⟩
      split
      iterate 7
        exact (Agrees.ret _).bind fun changed => (Agrees.write (hset changed)).bind fun _ => ih ..
      exact .fail _

theorem framed_groupName : Framed groupName := by
  unfold groupName
  refine (takeWhile_unlessDone _).bind_require (by decide) fun name => ?_
  cases name with
  | nil => exact .fail _
  | cons c rest =>
    refine .ite (.fail _) (.read fun _ _ flags names h => ?_)
    exact .ite (.fail _) (.write ⟨rfl, rfl, h.rest⟩)

theorem framed_skipBlanks : Framed (left >>= fun k => bound?.skipBlanks k) :=
  .takeLeft (by decide) fun _ => .ret _

theorem framed_bound : Framed bound? := by
  unfold bound?
  refine (framed_takeWhile (by decide)).bind fun _ => .takeLeft (by decide) fun digits => ?_
  rw [← bind_assoc]
  exact framed_skipBlanks.bind fun _ => .ite (.fail _) (.ret _)

theorem framed_bounds : Framed bounds := by
  unfold bounds
  refine framed_skipSpaced.bind fun _ => framed_bound.bind fun low =>
    (framed_accept (by decide)).bind fun _ => .ite ?_ ?_
  · refine framed_skipSpaced.bind fun _ => (framed_accept (by decide)).bind fun _ => .ite ?_ ?_
    · cases low with
      | none => exact .fail _
      | some => exact .ret _
    · refine framed_bound.bind fun high => (framed_require _).bind fun _ => ?_
      split
      · exact .ite (.ret _) (.fail _)
      · exact .fail _
  · refine (framed_require _).bind fun _ => ?_
    cases low with
    | none => exact .fail _
    | some => exact .ret _

theorem framed_greed : Framed greed :=
  (framed_accept (by decide)).bind fun _ => .read fun _ _ _ _ _ => .ret _

theorem agrees_groupStart (k l : Nat) : Agrees (groupStart k) (groupStart l) := by
  unfold groupStart
  refine framed_skipSpaced.bind fun _ => ?_
  refine ((framed_accept (by decide)).or ((framed_accept (by decide)).or
    ((framed_accept (by decide)).or (framed_accept (by decide))))).bind fun _ => .ite (.fail _) ?_
  refine ((framed_accept (by decide)).or (framed_accept (by decide))).bind fun _ => .ite ?_ ?_
  · exact framed_groupName.bind fun _ => .ret _
  · refine (framed_accept (by decide)).bind fun _ => .ite ?_ (.ret _)
    exact (agrees_flagLetters k l [] false false).bind fun _ => .ret _

theorem framed_character (c : Char) : Framed (character c) := .read fun _ _ _ _ _ => .ret _

theorem framed_single (c : Char) : Framed (single c) := by
  unfold single
  refine .read fun _ _ flags _ _ => ?_
  dsimp only
  split
  · exact .read fun _ _ flags _ _ => .ite (.fail _) (.ret _)
  · exact .ret _
  · exact .ret _
  · refine framed_escape.bind fun found => ?_
    cases found with
    | char c => exact framed_character c
    | set | look => exact .ret _
  · exact framed_character c

theorem agrees_itemFrom (k l : Nat) (c : Char) : Agrees (itemFrom k c) (itemFrom l c) := by
  unfold itemFrom
  split
  · exact .ret _
  · exact agrees_groupStart k l
  · exact (agrees_classBody k l _).bind fun _ => .ret _
  iterate 3 exact framed_greed.bind fun _ => .ret _
  · exact framed_bounds.bind fun _ => framed_skipSpaced.bind fun _ =>
      framed_greed.bind fun _ => .ret _
  · exact (framed_single c).bind fun _ => .ret _

theorem agrees_item (k l : Nat) : Agrees (item k) (item l) := by
  unfold item
  refine framed_skipSpaced.bind fun _ => .peek (fun c => ?_) (.ret _) (.ret _)
  split
  · exact .ret _
  · exact .ret _
  · exact framed_next.bind fun _ => agrees_itemFrom k l _

/-- **The alternatives up to a bracket** are those up to the end, if there is room for both. -/
theorem agrees_alternatives (k l depth depth' : Nat) (branches parts : List Part)
    (canRepeat : Bool) : Agrees (alternatives k depth branches parts canRepeat)
      (alternatives l depth' branches parts canRepeat) := by
  induction k generalizing l depth depth' branches parts canRepeat with
  | zero => exact .fail _
  | succ k ih =>
    cases l with
    | zero => exact .fails _
    | succ l =>
      rw [alternatives, alternatives]
      refine .read fun rest rest' outer names h => ?_
      dsimp only
      refine (agrees_item k l).bind fun found => ?_
      cases found with
      | stop => exact .ret _
      | bar => exact ih ..
      | flags => exact ih ..
      | part p => exact ih ..
      | opening remembered =>
        cases depth with
        | zero => exact .fail _
        | succ depth =>
          cases depth' with
          | zero => exact .fails _
          | succ depth' =>
            refine (ih l depth depth' [] [] false).bind fun inner =>
              (framed_require _).bind fun _ => ?_
            have hflags : ∀ s t, Follows s t →
                Follows { s with flags := outer } { t with flags := outer } :=
              fun s t h => ⟨rfl, h.names, h.rest⟩
            exact (Agrees.change hflags).bind fun _ => ih ..
      | count greedy low high =>
        cases parts with
        | nil => exact .fail _
        | cons last before => exact .ite (.fail _) (ih ..)

/-! ## A group that is bound to the start -/

section

variable {k depth : Nat} {branches parts : List Part} {canRepeat : Bool} {s' : State}

theorem run_alternatives_part {p : Part} (h : (item k).run s = some (.part p, s')) :
    (alternatives (k + 1) depth branches parts canRepeat).run s =
      (alternatives k depth branches (p :: parts) true).run s' := by
  rw [alternatives]
  show ((item k).run s).bind _ = _
  rw [h]
  rfl

theorem run_alternatives_stop (h : (item k).run s = some (.stop, s')) :
    (alternatives (k + 1) depth branches parts canRepeat).run s =
      some (.choice (Part.inOrder parts.reverse :: branches).reverse, s') := by
  rw [alternatives]
  show ((item k).run s).bind _ = _
  rw [h]
  rfl

theorem run_alternatives_opening {remembered : Bool}
    (h : (item k).run s = some (.opening remembered, s')) :
    (alternatives (k + 1) (depth + 1) branches parts canRepeat).run s =
      (alternatives k depth [] [] false >>= fun inner => require ")" >>= fun _ =>
        modify (fun t => { t with flags := s.flags }) >>= fun _ =>
        alternatives k (depth + 1) branches (inner.group remembered :: parts) true).run s' := by
  rw [alternatives]
  show ((item k).run s).bind _ = _
  rw [h]
  rfl

end

theorem run_item_start (k : Nat) (rest : List Char) (names : List (List Char)) :
    (item k).run ⟨'^' :: rest, {}, names⟩ =
      some (.part (Part.look .textStart), ⟨rest, {}, names⟩) := rfl

theorem run_item_opening (k : Nat) (rest : List Char) (names : List (List Char)) :
    (item (k + 1)).run ⟨'(' :: '?' :: ':' :: rest, {}, names⟩ =
      some (.opening false, ⟨rest, {}, names⟩) := rfl

theorem run_item_end (k : Nat) (names : List (List Char)) :
    (item k).run ⟨[], {}, names⟩ = some (.stop, ⟨[], {}, names⟩) := rfl

/-- A group that is bound to the start, and what is read inside and after it. -/
theorem run_enclosed {k depth : Nat} {text : List Char} {group : Part} {t : State}
    (h : (alternatives (k + 3) (depth + 1) [] [] false).run
      ⟨'^' :: '(' :: '?' :: ':' :: text, {}, []⟩ = some (group, t)) :
    ∃ inner t₁ rest,
      (alternatives (k + 1) depth [] [] false).run ⟨text, {}, []⟩ = some (inner, t₁) ∧
      t₁.rest = ')' :: rest ∧
      (rest = [] → group = Part.inOrder [Part.look .textStart, inner.group false]) := by
  rw [run_alternatives_part (run_item_start _ _ _),
    run_alternatives_opening (run_item_opening _ _ _)] at h
  obtain ⟨inner, t₁, hinner, h⟩ := run_bind.1 h
  obtain ⟨u, t₂, hclose, h⟩ := run_bind.1 h
  obtain ⟨v, t₃, hflags, h⟩ := run_bind.1 h
  cases hflags
  refine ⟨inner, t₁, t₂.rest, hinner, run_accept_true (run_require hclose), fun hnil => ?_⟩
  have h : (alternatives (k + 1) (depth + 1) [] [inner.group false, Part.look .textStart] true).run
      ⟨t₂.rest, {}, t₂.names⟩ = some (group, t) := h
  rw [hnil, run_alternatives_stop (run_item_end _ _)] at h
  cases h
  rfl

end LiterateSite.PatternReader

namespace LiterateSite.Pattern

open PatternReader

/-- What is read leaves nothing of the text. -/
theorem of_read {text : List Char} {p : Pattern} (h : Pattern.read? text = some p) :
    ∃ part s, (alternatives (2 * text.length + 2) Part.depthLimit [] [] false).run ⟨text, {}, []⟩ =
      some (part, s) ∧ s.rest = [] ∧ p = part.pattern := by
  obtain ⟨⟨part, s⟩, hrun, h⟩ := Option.bind_eq_some_iff.1 h
  dsimp only at h
  split at h
  · rename_i hdone
    exact ⟨part, s, hrun, List.isEmpty_iff.1 (Bool.and_eq_true_iff.1 hdone).1,
      (Option.some.inj h).symm⟩
  · cases h

/-- **A pattern in a group that is bound to the start**: if the pattern can be read on its own, and
the group can be read, then the group is that pattern behind the bound. -/
theorem read_enclosed {text : List Char} {p q : Pattern} (hp : Pattern.read? text = some p)
    (hq : Pattern.read? ("^(?:".toList ++ text ++ [')']) = some q) :
    q = seq (look .textStart) p := by
  obtain ⟨part, s, hrun, hs, rfl⟩ := of_read hp
  obtain ⟨group, t, hgroup, -, rfl⟩ := of_read hq
  have hfuel : 2 * ("^(?:".toList ++ text ++ [')']).length + 2 = (2 * text.length + 9) + 3 := by
    rw [List.length_append, List.length_append]
    show 2 * (4 + text.length + 1) + 2 = _
    omega
  rw [hfuel] at hgroup
  obtain ⟨inner, t₁, rest, hinner, hclose, hend⟩ := run_enclosed hgroup
  have hstart : Follows ⟨text, {}, []⟩ ⟨text ++ [')'], {}, []⟩ := ⟨rfl, rfl, Or.inl rfl⟩
  obtain ⟨rfl, h₁⟩ := agrees_alternatives _ _ _ _ _ _ _ hstart hrun hinner
  -- nothing is left before the bracket that closes the group, so nothing after it
  have hrest : rest = [] := by
    rcases h₁.of_nil hs with ht | ht
    · exact (List.cons.inj (hclose.symm.trans ht)).2
    · rw [ht] at hclose
      cases hclose
  rw [hend hrest]
  rfl

end LiterateSite.Pattern
