import LiterateSite.Proofs.Pattern.Ends

/-!
# Literals, alternatives and repetitions

Where the patterns that grammars are made of end first.

* `Cursor.exists_mem_distinct`, `Cursor.distinct_of_pairwise`: what is left of a list of positions.
* `Pattern.ends_literal`: a literal ends after its text, where the text goes on with it.
* `Pattern.mem_ends_altAll`, `Pattern.exists_mem_ends_altAll`: alternatives end where one of them
  does.
* `Pattern.Forced`, `Pattern.matchAt?_star_forced`: a greedy repetition that has one way to go on,
  at every place, **goes on until it has none**.
* `Pattern.matchAt?_lazy`: a lazy repetition ends at **the first place where what follows matches**.
-/

namespace LiterateSite

open Text (isWord)

/-! ## Lists of positions -/

namespace Cursor

variable {cur next : Cursor} {set : CharSet}

theorem exists_mem_unseen {seen : Std.HashSet Nat} {l : List Cursor} (h : cur ∈ l) :
    seen.contains cur.consumed = true ∨ ∃ c ∈ unseen seen l, c.consumed = cur.consumed := by
  induction l generalizing seen with
  | nil => exact absurd h List.not_mem_nil
  | cons head rest ih =>
    unfold unseen
    split
    · rename_i hs
      rcases List.mem_cons.1 h with rfl | h
      · exact Or.inl hs
      · exact ih h
    · rcases List.mem_cons.1 h with rfl | h
      · exact Or.inr ⟨cur, List.mem_cons_self, rfl⟩
      · rcases @ih (seen.insert head.consumed) h with hs | ⟨c, hc, he⟩
        · rw [Std.HashSet.contains_insert, Bool.or_eq_true_iff, beq_iff_eq] at hs
          exact hs.symm.imp id fun he => ⟨head, List.mem_cons_self, he⟩
        · exact Or.inr ⟨c, List.mem_cons_of_mem _ hc, he⟩

/-- No place gets lost. -/
theorem exists_mem_distinct {l : List Cursor} (h : cur ∈ l) :
    ∃ c ∈ distinct l, c.consumed = cur.consumed := by
  unfold distinct
  split
  · exact absurd h List.not_mem_nil
  · exact ⟨cur, h, rfl⟩
  · exact (exists_mem_unseen h).resolve_left (by simp)

theorem unseen_of_pairwise {seen : Std.HashSet Nat} {l : List Cursor}
    (hs : ∀ c ∈ l, seen.contains c.consumed = false)
    (h : l.Pairwise fun a b => a.consumed ≠ b.consumed) : unseen seen l = l := by
  induction l generalizing seen with
  | nil => rfl
  | cons head rest ih =>
    obtain ⟨hhead, hrest⟩ := List.pairwise_cons.1 h
    unfold unseen
    rw [if_neg (by rw [hs head List.mem_cons_self]; exact Bool.false_ne_true), ih ?_ hrest]
    intro c hc
    rw [Std.HashSet.contains_insert, Bool.or_eq_false_iff]
    exact ⟨beq_false_of_ne (hhead c hc), hs c (List.mem_cons_of_mem _ hc)⟩

/-- Different places all stay. -/
theorem distinct_of_pairwise {l : List Cursor}
    (h : l.Pairwise fun a b => a.consumed ≠ b.consumed) : distinct l = l := by
  unfold distinct
  split
  · rfl
  · rfl
  · exact unseen_of_pairwise (fun _ _ => by simp) h

/-- The character before the end of a word is its last one. -/
theorem past_before (cur : Cursor) (word : List Char) :
    (cur.past word).before = word.getLast?.or cur.before := by
  induction word generalizing cur with
  | nil => rfl
  | cons c word ih =>
    rw [show cur.past (c :: word) = (cur.advance c cur.rest.tail).past word from rfl, ih,
      List.getLast?_cons]
    cases word.getLast? <;> rfl

theorem past_cons {c : Char} {rest : List Char} (hr : cur.rest = c :: rest) (word : List Char) :
    cur.past (c :: word) = (cur.advance c rest).past word := by
  show (cur.advance c cur.rest.tail).past word = _
  rw [hr]
  rfl

/-- The positions after one, two, … characters of a set, nearest first. -/
def nearest (set : CharSet) (cur : Cursor) : List Char → List Cursor
  | [] => []
  | c :: rest =>
    if set.contains c then cur.advance c rest :: nearest set (cur.advance c rest) rest else []

theorem after_eq (cur : Cursor) (rest : List Char) (before : List Cursor) :
    after set cur rest before = (nearest set cur rest).reverse ++ before := by
  induction rest generalizing cur before with
  | nil => rfl
  | cons c rest ih =>
    unfold after nearest
    split
    · rw [ih, List.reverse_cons, List.append_assoc]
      rfl
    · rfl

theorem lt_of_mem_nearest {rest : List Char} (h : next ∈ nearest set cur rest) :
    cur.consumed < next.consumed := by
  induction rest generalizing cur with
  | nil => exact absurd h List.not_mem_nil
  | cons c rest ih =>
    unfold nearest at h
    split at h
    · rcases List.mem_cons.1 h with rfl | h
      · exact Nat.lt_succ_self _
      · exact Nat.lt_of_succ_lt (ih h)
    · exact absurd h List.not_mem_nil

theorem pairwise_nearest (cur : Cursor) (rest : List Char) :
    (nearest set cur rest).Pairwise fun a b => a.consumed ≠ b.consumed := by
  induction rest generalizing cur with
  | nil => exact .nil
  | cons c rest ih =>
    unfold nearest
    split
    · exact List.pairwise_cons.2 ⟨fun next hn => Nat.ne_of_lt (lt_of_mem_nearest hn), ih _⟩
    · exact .nil

end Cursor

open Cursor

namespace Pattern

open CharSet (single contains_single)

variable {p q : Pattern} {ps : List Pattern} {set : CharSet} {cur mid next last : Cursor}
variable {text body rest : List Char}

/-! ## Literals and alternatives -/

theorem ends_single_cons {d : Char} (hr : cur.rest = d :: rest) (c : Char) :
    (one (single c)).ends cur = if d = c then [cur.advance d rest] else [] := by
  rw [ends_one_cons hr, contains_single]
  by_cases hd : d = c
  · rw [if_pos (decide_eq_true hd), if_pos hd]
  · rw [if_neg (by simpa using hd), if_neg hd]

theorem Leads.of_single {c : Char} (h : (Pattern.one (single c)).Leads cur next) :
    cur.rest = c :: next.rest := by
  cases h with
  | @one _ _ d rest hr hs =>
    have hd : d = c := by
      rw [contains_single] at hs
      exact of_decide_eq_true hs
    rw [hr, hd]
    rfl

theorem ends_one_single (c : Char) (cur : Cursor) :
    (one (single c)).ends cur = if [c] <+: cur.rest then [cur.past [c]] else [] := by
  cases hr : cur.rest with
  | nil =>
    rw [if_neg (by simp)]
    exact ends_one_eq_nil (by rw [hr]; exact fun _ h => absurd h (Option.not_mem_none _))
  | cons d rest =>
    rw [ends_single_cons hr]
    by_cases hd : d = c
    · rw [hd] at hr
      rw [hd, if_pos rfl, if_pos (List.cons_prefix_cons.2 ⟨rfl, List.nil_prefix⟩), past_cons hr]
      rfl
    · rw [if_neg hd, if_neg fun h => hd (List.cons_prefix_cons.1 h).1.symm]

theorem ends_seqAll_single (cs : List Char) (cur : Cursor) :
    (seqAll (cs.map fun c => one (single c))).ends cur =
      if cs <+: cur.rest then [cur.past cs] else [] := by
  induction cs generalizing cur with
  | nil => exact (if_pos List.nil_prefix).symm
  | cons c cs ih =>
    cases cs with
    | nil => exact ends_one_single c cur
    | cons d cs =>
      show Cursor.distinct (((one (single c)).ends cur).flatMap
        (seqAll ((d :: cs).map fun c => one (single c))).ends) = _
      rw [ends_one_single]
      by_cases h : [c] <+: cur.rest
      · obtain ⟨rest, hr⟩ := h
        have hpast : (cur.past [c]).rest = rest := past_rest hr.symm
        have hiff : c :: d :: cs <+: cur.rest ↔ d :: cs <+: rest := by
          rw [← hr]
          exact (List.cons_prefix_cons).trans (and_iff_right rfl)
        rw [if_pos ⟨rest, hr⟩, List.flatMap_singleton, ih, hpast]
        simp only [hiff]
        split <;> rfl
      · have hlong : ¬c :: d :: cs <+: cur.rest :=
          fun h' => h ((List.prefix_append [c] (d :: cs)).trans h')
        rw [if_neg h, if_neg hlong]
        rfl

/-- A literal ends after its text. -/
theorem ends_literal (s : String) (cur : Cursor) :
    (literal s).ends cur = if s.toList <+: cur.rest then [cur.past s.toList] else [] :=
  ends_seqAll_single s.toList cur

theorem mem_ends_altAll (h : next ∈ (altAll ps).ends cur) : ∃ p ∈ ps, next ∈ p.ends cur := by
  induction ps with
  | nil =>
    rw [show (altAll []).ends cur = [] from ends_one_eq_nil fun _ _ => rfl] at h
    exact absurd h List.not_mem_nil
  | cons p ps ih =>
    cases ps with
    | nil => exact ⟨p, List.mem_cons_self, h⟩
    | cons q ps =>
      rcases List.mem_append.1 (mem_of_mem_distinct h) with h | h
      · exact ⟨p, List.mem_cons_self, h⟩
      · obtain ⟨r, hr, h⟩ := ih h
        exact ⟨r, List.mem_cons_of_mem _ hr, h⟩

theorem exists_mem_ends_altAll (hp : p ∈ ps) (h : next ∈ p.ends cur) :
    ∃ c ∈ (altAll ps).ends cur, c.consumed = next.consumed := by
  induction ps with
  | nil => exact absurd hp List.not_mem_nil
  | cons q ps ih =>
    cases ps with
    | nil =>
      rw [List.mem_singleton.1 hp] at h
      exact ⟨next, h, rfl⟩
    | cons r ps =>
      have hmem : ∃ c ∈ q.ends cur ++ (altAll (r :: ps)).ends cur, c.consumed = next.consumed := by
        rcases List.mem_cons.1 hp with rfl | hp
        · exact ⟨next, List.mem_append_left _ h, rfl⟩
        · obtain ⟨c, hc, he⟩ := ih hp
          exact ⟨c, List.mem_append_right _ hc, he⟩
      obtain ⟨c, hc, he⟩ := hmem
      obtain ⟨d, hd, he'⟩ := exists_mem_distinct hc
      exact ⟨d, hd, he'.trans he⟩

/-- After word characters there is a word edge where no further one follows. -/
theorem wordEdge_past (hw : text ≠ []) (hc : ∀ c ∈ text, isWord c = true)
    (hr : cur.rest = text ++ rest) :
    (Assertion.wordEdge false).holds (cur.past text) = !(rest.head?.any isWord) := by
  have hafter : (cur.past text).isAfter isWord = true := by
    show (cur.past text).before.any isWord = true
    rw [past_before, List.getLast?_eq_some_getLast hw, Option.some_or, Option.any_some]
    exact hc _ (List.getLast_mem hw)
  show ((cur.past text).isAfter isWord != (cur.past text).isBefore isWord) = _
  rw [hafter, Cursor.isBefore, past_rest hr]
  cases rest.head?.any isWord <;> rfl

/-! ## Forced repetitions -/

/-- Repetitions that have one way to go on at each place, and none at the last one. -/
inductive Forced (p : Pattern) : Cursor → Cursor → Prop
  | stop {cur : Cursor} (h : p.ends cur = []) : Forced p cur cur
  | step {cur mid last : Cursor} (h : p.ends cur = [mid]) (hlt : cur.consumed < mid.consumed)
      (later : Forced p mid last) : Forced p cur last

/-- A greedy repetition that is forced finds its last place first. -/
theorem Forced.found_again (h : p.Forced cur last) {fuel : List Char} {r : Reached}
    (hf : cur.rest.length ≤ fuel.length)
    (hs : ∀ n, r.seen.contains n = true → n ≤ cur.consumed) :
    ∃ between, (Reached.again p.ends true fuel cur r).found = between ++ last :: r.found := by
  induction h generalizing fuel r with
  | stop h =>
    cases fuel with
    | nil => exact ⟨[], rfl⟩
    | cons c fuel =>
      unfold Reached.again
      rw [h, if_pos rfl]
      exact ⟨[], rfl⟩
  | @step cur mid last h hlt later ih =>
    obtain ⟨skipped, hr, hc⟩ := reaches_of_mem_ends p cur mid (by rw [h]; exact List.mem_cons_self)
    have hshort : mid.rest.length < cur.rest.length := by
      rw [hr, List.length_append]
      omega
    cases fuel with
    | nil => exact absurd (Nat.lt_of_lt_of_le hshort hf) (Nat.not_lt_zero _)
    | cons c fuel =>
      have hfresh : r.seen.contains mid.consumed = false := by
        cases hm : r.seen.contains mid.consumed with
        | false => rfl
        | true => exact absurd (hs _ hm) (Nat.not_le_of_lt hlt)
      obtain ⟨between, hfound⟩ := @ih fuel (r.mark mid)
        (Nat.le_of_lt_succ (Nat.lt_of_lt_of_le hshort hf)) fun n hn => by
          rw [show (r.mark mid).seen = r.seen.insert mid.consumed from rfl,
            Std.HashSet.contains_insert, Bool.or_eq_true_iff, beq_iff_eq] at hn
          rcases hn with rfl | hn
          · exact Nat.le_refl _
          · exact Nat.le_trans (hs n hn) (Nat.le_of_lt hlt)
      unfold Reached.again
      rw [if_pos rfl, h, List.foldl_cons, List.foldl_nil, hfresh, decide_eq_true hlt]
      exact ⟨cur :: between, congrArg (cur :: ·) hfound⟩

/-- **A greedy repetition that is forced** ends where it cannot go on. -/
theorem matchAt?_star_forced (hp : ∀ set, p ≠ one set) (h : p.Forced cur last) :
    (star true p).matchAt? cur = some last := by
  show (Cursor.distinct ((plus true p).ends cur ++ [cur])).head? = _
  rw [head?_distinct, ends_plus hp]
  cases h with
  | stop h =>
    unfold Reached.repeated
    rw [h]
    rfl
  | @step _ mid _ h hlt later =>
    unfold Reached.repeated
    rw [h, List.foldl_cons, List.foldl_nil, if_neg (by simp), if_pos hlt]
    obtain ⟨between, hfound⟩ := @Forced.found_again p mid last later mid.rest (Reached.mark {} mid)
      (Nat.le_refl _) fun n hn => by
        rw [show (Reached.mark {} mid).seen = (∅ : Std.HashSet Nat).insert mid.consumed from rfl,
          Std.HashSet.contains_insert, Bool.or_eq_true_iff, beq_iff_eq] at hn
        exact hn.elim (fun he => Nat.le_of_eq he.symm) fun he => absurd he (by simp)
    rw [hfound, List.reverse_append]
    rfl

/-! ## Lazy repetitions -/

theorem head?_flatMap_nearest (hr : cur.rest = body ++ rest)
    (hb : ∀ c ∈ body, set.contains c = true)
    (hn : ∀ sooner later, body = sooner ++ later → later ≠ [] → q.ends (cur.past sooner) = [])
    (hl : q.matchAt? (cur.past body) = some last) :
    ((cur :: nearest set cur cur.rest).flatMap q.ends).head? = some last := by
  induction body generalizing cur with
  | nil =>
    rw [List.flatMap_cons, List.head?_append, show (q.ends cur).head? = some last from hl]
    rfl
  | cons c body ih =>
    have hfirst : q.ends cur = [] := hn [] (c :: body) rfl (List.cons_ne_nil _ _)
    have hnear : nearest set cur cur.rest =
        cur.advance c (body ++ rest) ::
          nearest set (cur.advance c (body ++ rest)) (body ++ rest) := by
      rw [hr]
      exact if_pos (hb c List.mem_cons_self)
    rw [List.flatMap_cons, hfirst, List.nil_append, hnear]
    refine ih (show (cur.advance c (body ++ rest)).rest = body ++ rest from rfl)
      (fun d hd => hb d (List.mem_cons_of_mem _ hd)) (fun sooner later he hne => ?_) ?_
    · exact past_cons hr sooner ▸ hn (c :: sooner) later (by rw [he]; rfl) hne
    · exact past_cons hr body ▸ hl

/-- **A lazy repetition** of a character ends at the first place where what follows matches. -/
theorem matchAt?_lazy (hr : cur.rest = body ++ rest) (hb : ∀ c ∈ body, set.contains c = true)
    (hn : ∀ sooner later, body = sooner ++ later → later ≠ [] → q.ends (cur.past sooner) = [])
    (hl : q.matchAt? (cur.past body) = some last) :
    (seq (star false (one set)) q).matchAt? cur = some last := by
  have hstar : (star false (one set)).ends cur = cur :: nearest set cur cur.rest := by
    show Cursor.distinct ([cur] ++ (after set cur cur.rest []).reverse) = _
    rw [after_eq, List.append_nil, List.reverse_reverse]
    exact distinct_of_pairwise (List.pairwise_cons.2
      ⟨fun next h => Nat.ne_of_lt (lt_of_mem_nearest h), pairwise_nearest cur _⟩)
  show (Cursor.distinct (((star false (one set)).ends cur).flatMap q.ends)).head? = _
  rw [head?_distinct, hstar]
  exact head?_flatMap_nearest hr hb hn hl

end Pattern

end LiterateSite
