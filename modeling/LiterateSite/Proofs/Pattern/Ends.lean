import LiterateSite.Proofs.Pattern.Leads

/-!
# Where a match can end

* `Cursor.Reaches`: one position stands at or after another one in the same text.
* `Pattern.reaches_of_mem_ends`: **a pattern ends only where its text allows it to**: what lies
  between is a part of the text, for every pattern.
* `Pattern.of_find?`: a match lies in the text, between what stands before it and after it.
* `Pattern.find?_anchored`: where a pattern that is bound to the start matches.
* `Pattern.matchAt?_plus_one`, `Pattern.matchAt?_star_one`: **a repeated character is matched as far
  as it goes**.
-/

namespace LiterateSite

namespace Cursor

variable {cur next : Cursor} {set : CharSet}

/-- The position stands at or after the other one in the same text. -/
def Reaches (cur next : Cursor) : Prop :=
  ∃ word, cur.rest = word ++ next.rest ∧ next.consumed = cur.consumed + word.length

/-! ## Lists of positions -/

/-- The preferred position stays the preferred one. -/
@[simp] theorem head?_distinct (l : List Cursor) : (distinct l).head? = l.head? := by
  unfold distinct
  split
  · rfl
  · rfl
  · cases l with
    | nil => rfl
    | cons cur rest =>
      unfold unseen
      rw [if_neg (by simp)]
      rfl

/-- The position after a word that the text goes on with. -/
def past (cur : Cursor) : List Char → Cursor
  | [] => cur
  | c :: word => past (cur.advance c cur.rest.tail) word

theorem past_append (cur : Cursor) (word more : List Char) :
    cur.past (word ++ more) = (cur.past word).past more := by
  induction word generalizing cur with
  | nil => rfl
  | cons c word ih => exact ih (cur.advance c cur.rest.tail)

theorem past_consumed (cur : Cursor) (word : List Char) :
    (cur.past word).consumed = cur.consumed + word.length := by
  induction word generalizing cur with
  | nil => rfl
  | cons c word ih =>
    show ((cur.advance c cur.rest.tail).past word).consumed = _
    rw [ih, List.length_cons]
    show cur.consumed + 1 + _ = _
    omega

theorem past_rest {word rest : List Char} (h : cur.rest = word ++ rest) :
    (cur.past word).rest = rest := by
  induction word generalizing cur with
  | nil => exact h
  | cons c word ih => exact ih (show cur.rest.tail = word ++ rest by rw [h]; rfl)

/-- The preferred end of a repeated character is the last one. -/
theorem head?_after {word rest : List Char} {before : List Cursor}
    (hw : ∀ c ∈ word, set.contains c = true) (hn : ∀ c ∈ rest.head?, set.contains c = false)
    (hr : cur.rest = word ++ rest) :
    (after set cur (word ++ rest) before).head? =
      if word = [] then before.head? else some (cur.past word) := by
  induction word generalizing cur before with
  | nil =>
    cases rest with
    | nil => rfl
    | cons c rest =>
      show (if set.contains c = true then _ else before).head? = _
      rw [hn c rfl, if_neg Bool.false_ne_true]
      rfl
  | cons c word ih =>
    let next := cur.advance c (word ++ rest)
    have hpast : cur.past (c :: word) = next.past word := by
      show (cur.advance c cur.rest.tail).past word = _
      rw [hr]
      rfl
    show (if set.contains c = true then after set next (word ++ rest) (next :: before)
      else before).head? = _
    rw [if_pos (hw c List.mem_cons_self), ih (fun d hd => hw d (List.mem_cons_of_mem _ hd)) rfl,
      if_neg (List.cons_ne_nil _ _), hpast]
    split
    · rename_i h
      rw [h]
      rfl
    · rfl

end Cursor

open Cursor

namespace CharSet

theorem contains_single (a c : Char) : (single a).contains c = decide (c = a) := by
  show (decide (a.val ≤ c.val) && decide (c.val ≤ a.val)) = _
  rw [← Bool.decide_and]
  refine decide_eq_decide.2 ⟨fun h => Char.ext (UInt32.le_antisymm h.2 h.1), ?_⟩
  rintro rfl
  exact ⟨UInt32.le_refl _, UInt32.le_refl _⟩

theorem contains_unionAll (sets : List CharSet) (c : Char) :
    (unionAll sets).contains c = sets.any (·.contains c) := by
  induction sets with
  | nil => rfl
  | cons s rest ih =>
    cases rest with
    | nil => exact (Bool.or_false _).symm
    | cons t rest => exact congrArg (s.contains c || ·) ih

theorem contains_oneOf (s : String) (c : Char) : (oneOf s).contains c = decide (c ∈ s.toList) := by
  rw [oneOf, contains_unionAll, List.any_map, Bool.eq_iff_iff, List.any_eq_true, decide_eq_true_iff]
  constructor
  · rintro ⟨d, hd, hc⟩
    have hc : decide (c = d) = true := contains_single d c ▸ hc
    exact of_decide_eq_true hc ▸ hd
  · intro hc
    exact ⟨c, hc, (contains_single c c).trans (decide_eq_true rfl)⟩

end CharSet

namespace Pattern

variable {p : Pattern} {text : List Char} {m : Match}

/-! ## Patterns -/

/-- Some place of the pattern admits the character. -/
def admits (c : Char) : Pattern → Bool
  | empty => false
  | one set => set.contains c
  | look _ => false
  | seq p q => p.admits c || q.admits c
  | alt p q => p.admits c || q.admits c
  | plus _ p => p.admits c
  | exactly _ p => p.admits c
  | atMost _ _ p => p.admits c

/-- The pattern may match the empty text. -/
def canBeEmpty : Pattern → Bool
  | empty => true
  | one _ => false
  | look _ => true
  | seq p q => p.canBeEmpty && q.canBeEmpty
  | alt p q => p.canBeEmpty || q.canBeEmpty
  | plus _ p => p.canBeEmpty
  | exactly n p => n == 0 || p.canBeEmpty
  | atMost _ _ _ => true

/-- A match of the pattern may begin with the character. -/
def begins (c : Char) : Pattern → Bool
  | empty => false
  | one set => set.contains c
  | look _ => false
  | seq p q => p.begins c || (p.canBeEmpty && q.begins c)
  | alt p q => p.begins c || q.begins c
  | plus _ p => p.begins c
  | exactly _ p => p.begins c
  | atMost _ _ p => p.begins c

/-- A word that the pattern can match: the text goes on with it, its characters are admitted, it
begins with one that a match may begin with, and it is empty only if a match may be. -/
structure Spells (p : Pattern) (cur next : Cursor) (word : List Char) : Prop where
  follows : ∃ rest, cur.rest = word ++ rest
  stop : next = cur.past word
  letters : ∀ c ∈ word, p.admits c = true
  first : ∀ c ∈ word.head?, p.begins c = true
  nothing : word = [] → p.canBeEmpty = true

theorem spells_nil {cur : Cursor} (h : p.canBeEmpty = true) : p.Spells cur cur [] where
  follows := ⟨cur.rest, rfl⟩
  stop := rfl
  letters _ hc := absurd hc List.not_mem_nil
  first _ hc := absurd hc (Option.not_mem_none _)
  nothing _ := h

/-- Two words in order, of a pattern that admits the characters of both parts and may begin with
those of the first, or of the second if the first is empty. -/
theorem Spells.append {q r : Pattern} {cur mid next : Cursor} {u v : List Char}
    (hp : p.Spells cur mid u) (hq : q.Spells mid next v)
    (hletters : ∀ c, p.admits c = true ∨ q.admits c = true → r.admits c = true)
    (hfirst : ∀ c, p.begins c = true → r.begins c = true)
    (hsecond : p.canBeEmpty = true → ∀ c, q.begins c = true → r.begins c = true)
    (hnothing : p.canBeEmpty = true → q.canBeEmpty = true → r.canBeEmpty = true) :
    r.Spells cur next (u ++ v) := by
  obtain ⟨rest, hr⟩ := hp.follows
  obtain ⟨more, hm⟩ := hq.follows
  have hmid : mid.rest = rest := hp.stop ▸ past_rest hr
  refine ⟨⟨more, ?_⟩, ?_, fun c hc => hletters c ?_, fun c hc => ?_, fun hn => ?_⟩
  · rw [hr, ← hmid, hm, List.append_assoc]
  · rw [hq.stop, hp.stop, past_append]
  · exact (List.mem_append.1 hc).imp (hp.letters c) (hq.letters c)
  · rw [List.head?_append] at hc
    rcases Option.or_eq_some_iff.1 hc with hc | ⟨hu, hc⟩
    · exact hfirst c (hp.first c hc)
    · exact hsecond (hp.nothing (List.head?_eq_none_iff.1 hu)) c (hq.first c hc)
  · obtain ⟨hu, hv⟩ := List.append_eq_nil_iff.1 hn
    exact hnothing (hp.nothing hu) (hq.nothing hv)

theorem Spells.mono {q : Pattern} {cur next : Cursor} {word : List Char}
    (h : p.Spells cur next word) (hletters : ∀ c, p.admits c = true → q.admits c = true)
    (hfirst : ∀ c, p.begins c = true → q.begins c = true)
    (hnothing : p.canBeEmpty = true → q.canBeEmpty = true) : q.Spells cur next word where
  follows := h.follows
  stop := h.stop
  letters c hc := hletters c (h.letters c hc)
  first c hc := hfirst c (h.first c hc)
  nothing hn := hnothing (h.nothing hn)

/-- **What a pattern leads past** is a word that it can match. -/
theorem Leads.spells {cur next : Cursor} (h : p.Leads cur next) :
    ∃ word, p.Spells cur next word := by
  induction h with
  | empty => exact ⟨[], spells_nil rfl⟩
  | @one set cur c rest hr hs =>
    have hmem : ∀ d ∈ [c], set.contains d = true := fun d hd => List.mem_singleton.1 hd ▸ hs
    refine ⟨[c], ⟨rest, hr⟩, ?_, hmem, fun d hd => hmem d (List.mem_of_mem_head? hd),
      fun hn => absurd hn (List.cons_ne_nil _ _)⟩
    show _ = cur.advance c cur.rest.tail
    rw [hr]
    rfl
  | look h => exact ⟨[], spells_nil rfl⟩
  | seq first second ihf ihs =>
    obtain ⟨u, hu⟩ := ihf
    obtain ⟨v, hv⟩ := ihs
    exact ⟨u ++ v, hu.append hv (fun _ => Bool.or_eq_true_iff.2)
      (fun _ h => Bool.or_eq_true_iff.2 (Or.inl h))
      (fun hn _ h => Bool.or_eq_true_iff.2 (Or.inr (Bool.and_eq_true_iff.2 ⟨hn, h⟩)))
      fun hn h => Bool.and_eq_true_iff.2 ⟨hn, h⟩⟩
  | left h ih =>
    obtain ⟨u, hu⟩ := ih
    have hor {a b : Bool} (h : a = true) : (a || b) = true := Bool.or_eq_true_iff.2 (Or.inl h)
    exact ⟨u, hu.mono (fun _ => hor) (fun _ => hor) hor⟩
  | right h ih =>
    obtain ⟨u, hu⟩ := ih
    have hor {a b : Bool} (h : b = true) : (a || b) = true := Bool.or_eq_true_iff.2 (Or.inr h)
    exact ⟨u, hu.mono (fun _ => hor) (fun _ => hor) hor⟩
  | once h ih =>
    obtain ⟨u, hu⟩ := ih
    exact ⟨u, hu.mono (fun _ h => h) (fun _ h => h) fun h => h⟩
  | again sooner last ihs ihl =>
    obtain ⟨u, hu⟩ := ihs
    obtain ⟨v, hv⟩ := ihl
    exact ⟨u ++ v, hu.append hv (fun _ h => h.elim id id) (fun _ h => h) (fun _ _ h => h)
      fun h _ => h⟩
  | zero => exact ⟨[], spells_nil rfl⟩
  | succ first later ihf ihl =>
    obtain ⟨u, hu⟩ := ihf
    obtain ⟨v, hv⟩ := ihl
    exact ⟨u ++ v, hu.append hv (fun _ h => h.elim id id) (fun _ h => h) (fun _ _ h => h)
      fun h _ => h⟩
  | stop => exact ⟨[], spells_nil rfl⟩
  | more first later ihf ihl =>
    obtain ⟨u, hu⟩ := ihf
    obtain ⟨v, hv⟩ := ihl
    exact ⟨u ++ v, hu.append hv (fun _ h => h.elim id id) (fun _ h => h) (fun _ _ h => h)
      fun _ _ => rfl⟩

theorem Spells.reaches {cur next : Cursor} {word : List Char} (h : p.Spells cur next word) :
    cur.Reaches next := by
  obtain ⟨rest, hr⟩ := h.follows
  exact ⟨word, by rw [h.stop, past_rest hr, hr], by rw [h.stop, past_consumed]⟩

/-- **A pattern ends** at or after the position where it begins, in the same text. -/
theorem reaches_of_mem_ends (p : Pattern) (cur : Cursor) : ∀ c ∈ p.ends cur, cur.Reaches c := by
  intro c hc
  obtain ⟨word, hw⟩ := (leads_of_mem_ends p cur c hc).spells
  exact hw.reaches

/-- A match that begins at a position. -/
theorem of_found? {cur : Cursor} (h : p.found? cur = some m) :
    m.start = cur.consumed ∧ cur.Reaches m.stop := by
  obtain ⟨stop, hs, rfl⟩ := Option.map_eq_some_iff.1 h
  exact ⟨rfl, reaches_of_mem_ends p cur stop (List.mem_of_mem_head? hs)⟩

/-- A match that is searched for begins at or after the position. -/
theorem of_search {before : Option Char} {consumed : Nat}
    (h : p.search before consumed text = some m) :
    ∃ skipped word, text = skipped ++ word ++ m.stop.rest ∧ m.start = consumed + skipped.length ∧
      m.stop.consumed = m.start + word.length := by
  induction text generalizing before consumed with
  | nil =>
    obtain ⟨hs, word, hr, hc⟩ := of_found? h
    exact ⟨[], word, hr, hs, hc.trans (by rw [hs])⟩
  | cons c rest ih =>
    unfold search at h
    split at h
    · rename_i found hf
      rw [← Option.some.inj h]
      obtain ⟨hs, word, hr, hc⟩ := of_found? hf
      exact ⟨[], word, hr, hs, hc.trans (by rw [hs])⟩
    · obtain ⟨skipped, word, hr, hs, hc⟩ := ih h
      refine ⟨c :: skipped, word, by rw [hr]; rfl, ?_, hc⟩
      rw [hs, List.length_cons]
      omega

/-- A pattern leads to the end of a match that begins at the start of the text. -/
theorem leads_of_find? (h : p.find? text = some m) (hs : m.start = 0) :
    p.Leads (.start text) m.stop := by
  have hfound : p.found? (.start text) = some m := by
    unfold find? at h
    split at h
    · exact h
    · cases text with
      | nil => exact h
      | cons c rest =>
        unfold search at h
        split at h
        · rename_i found hf
          rw [← Option.some.inj h]
          exact hf
        · obtain ⟨skipped, word, -, hstart, -⟩ := of_search h
          omega
  obtain ⟨stop, hstop, rfl⟩ := Option.map_eq_some_iff.1 hfound
  exact leads_of_mem_ends p _ stop (List.mem_of_mem_head? hstop)

/-- **A match lies in the text.** -/
theorem of_find? (h : p.find? text = some m) :
    ∃ skipped word, text = skipped ++ word ++ m.stop.rest ∧ m.start = skipped.length ∧
      m.stop.consumed = m.start + word.length := by
  unfold find? at h
  split at h
  · obtain ⟨hs, word, hr, hc⟩ := of_found? h
    exact ⟨[], word, hr, hs, hc.trans (by rw [hs])⟩
  · obtain ⟨skipped, word, hr, hs, hc⟩ := of_search h
    exact ⟨skipped, word, hr, hs.trans (Nat.zero_add _), hc⟩

/-- A pattern that is bound to the start matches there or nowhere. -/
theorem start_of_isAnchored (hp : p.isAnchored = true) (h : p.find? text = some m) :
    m.start = 0 := by
  unfold find? at h
  rw [if_pos hp] at h
  exact (of_found? h).1

/-- **Where a pattern that is bound to the start matches**: where the pattern behind the bound does,
from the start of the text on. -/
theorem find?_anchored (p : Pattern) (text : List Char) :
    (seq (look .textStart) p).find? text =
      (p.matchAt? (.start text)).map fun stop => ⟨0, stop⟩ := by
  have hstart : (look .textStart).ends (.start text) = [.start text] := rfl
  show ((Cursor.distinct (((look .textStart).ends (.start text)).flatMap p.ends)).head?).map _ = _
  rw [head?_distinct, hstart, List.flatMap_singleton]
  rfl

/-! ## Repeated characters -/

variable {cur : Cursor} {set : CharSet} {word rest : List Char}

theorem matchAt?_plus_one (hw : ∀ c ∈ word, set.contains c = true)
    (hn : ∀ c ∈ rest.head?, set.contains c = false) (hr : cur.rest = word ++ rest) :
    (plus true (one set)).matchAt? cur = if word = [] then none else some (cur.past word) := by
  show (after set cur cur.rest []).head? = _
  rw [hr, head?_after hw hn hr]
  rfl

/-- **A repeated character** is matched as far as it goes. -/
theorem matchAt?_star_one (hw : ∀ c ∈ word, set.contains c = true)
    (hn : ∀ c ∈ rest.head?, set.contains c = false) (hr : cur.rest = word ++ rest) :
    (star true (one set)).matchAt? cur = some (cur.past word) := by
  have hp : ((plus true (one set)).ends cur).head? = _ := matchAt?_plus_one hw hn hr
  show (Cursor.distinct ((plus true (one set)).ends cur ++ [cur])).head? = _
  rw [head?_distinct, List.head?_append, hp]
  split
  · rename_i h
    rw [h]
    rfl
  · rfl

/-- What follows goes on from the preferred end of what comes before, if it can. -/
theorem matchAt?_seq {p q : Pattern} {next last : Cursor} (hp : p.matchAt? cur = some next)
    (hq : q.matchAt? next = some last) : (seq p q).matchAt? cur = some last := by
  show (Cursor.distinct ((p.ends cur).flatMap q.ends)).head? = _
  obtain ⟨others, ho⟩ := List.head?_eq_some_iff.1 hp
  have hlast : (q.ends next).head? = some last := hq
  rw [head?_distinct, ho, List.flatMap_cons, List.head?_append, hlast]
  rfl

/-- There is no match if what follows has none from any end of what comes before. -/
theorem matchAt?_seq_none {p q : Pattern} (h : ∀ next ∈ p.ends cur, q.ends next = []) :
    (seq p q).matchAt? cur = none := by
  show (Cursor.distinct ((p.ends cur).flatMap q.ends)).head? = _
  rw [head?_distinct, List.flatMap_eq_nil_iff.2 h]
  rfl

/-- The first alternative is preferred. -/
theorem matchAt?_alt (p q : Pattern) (cur : Cursor) :
    (alt p q).matchAt? cur = (p.matchAt? cur).or (q.matchAt? cur) := by
  show (Cursor.distinct (p.ends cur ++ q.ends cur)).head? = _
  rw [head?_distinct, List.head?_append]
  rfl

theorem ends_one_cons {c : Char} {rest : List Char} (hr : cur.rest = c :: rest) :
    (one set).ends cur = if set.contains c then [cur.advance c rest] else [] := by
  unfold ends
  rw [hr]

theorem ends_one_eq_nil (h : ∀ c ∈ cur.rest.head?, set.contains c = false) :
    (one set).ends cur = [] := by
  cases hr : cur.rest with
  | nil =>
    unfold ends
    rw [hr]
  | cons c rest =>
    rw [ends_one_cons hr, if_neg]
    rw [h c (by rw [hr]; rfl)]
    exact Bool.false_ne_true

end Pattern

end LiterateSite
