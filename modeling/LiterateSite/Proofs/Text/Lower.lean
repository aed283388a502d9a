import Mathlib
import LiterateSite.Text.Case

/-!
# Lower case

Lower case is reached in one step, and the case of ASCII letters does not matter to it.

* `changedRuns`, `lowerRuns_lead`: the shifts of the mapping lead to characters that it shifts no
  further.
* `lowerChar_of_mem_lowerChar`: so **a character in lower case is its own lower case.**
* `toLower_eq_self_iff`, `toLower_toLower`: the same for texts.
* `toLower_of_map_toLower`: **a text in any case of its ASCII letters** has the same lower case.
-/

namespace LiterateSite.Text

variable {r r' : ShiftRun} {n : Nat} {c d : Char} {cs text : List Char}

/-! ## Runs -/

/-- The code point lies in the run. -/
def inShiftRun (r : ShiftRun) (n : Nat) : Bool :=
  r.1 ≤ n && n ≤ r.2.1 && (n - r.1) % r.2.2.1 == 0

/-- The code points of the run are shifted to those of characters. -/
def leadsToChars (r : ShiftRun) : Bool :=
  0 ≤ r.1 + r.2.2.2 && (r.2.1 + r.2.2.2 < 0xD800 ||
    (0xDFFF < r.1 + r.2.2.2 && r.2.1 + r.2.2.2 < 0x110000))

/-- The code points of the run are shifted before the other run, behind it, or between its code
points. -/
def leadsPast (r r' : ShiftRun) : Bool :=
  let first := (r.1 + r.2.2.2).toNat
  let last := (r.2.1 + r.2.2.2).toNat
  last < r'.1 || r'.2.1 < first ||
    (r'.2.2.1 == 2 && (r.1 == r.2.1 || r.2.2.1 == 2) && first % 2 != r'.1 % 2)

theorem inShiftRun_iff : inShiftRun r n = true ↔
    r.1 ≤ n ∧ n ≤ r.2.1 ∧ (n - r.1) % r.2.2.1 = 0 := by
  unfold inShiftRun
  rw [Bool.and_eq_true, Bool.and_eq_true, decide_eq_true_iff, decide_eq_true_iff, beq_iff_eq,
    and_assoc]

theorem isValidChar_of_leadsToChars (h : leadsToChars r = true) (hn : inShiftRun r n = true) :
    0 ≤ r.1 + r.2.2.2 ∧ (n + r.2.2.2).toNat.isValidChar := by
  obtain ⟨hfirst, hlast, -⟩ := inShiftRun_iff.1 hn
  unfold leadsToChars at h
  simp only [Bool.and_eq_true, Bool.or_eq_true, decide_eq_true_eq] at h
  refine ⟨by omega, ?_⟩
  unfold Nat.isValidChar
  omega

/-- **A code point that a run shifts** is not in a run that is led past. -/
theorem not_inShiftRun_of_leadsPast (h : leadsPast r r' = true) (h0 : 0 ≤ r.1 + r.2.2.2)
    (hn : inShiftRun r n = true) : inShiftRun r' (n + r.2.2.2).toNat = false := by
  rw [Bool.eq_false_iff]
  intro hm
  obtain ⟨hfirst, hlast, hstep⟩ := inShiftRun_iff.1 hn
  obtain ⟨hfirst', hlast', hstep'⟩ := inShiftRun_iff.1 hm
  unfold leadsPast at h
  simp only [Bool.and_eq_true, Bool.or_eq_true, decide_eq_true_eq, beq_iff_eq, bne_iff_ne] at h
  rcases h with (h | h) | ⟨⟨h2', hone | h2⟩, hodd⟩
  · omega
  · omega
  · rw [h2'] at hstep'
    omega
  · -- both runs have every other code point, and the shift makes the odd ones even
    rw [h2] at hstep
    rw [h2'] at hstep'
    omega

theorem exists_of_shiftOf {runs : Array ShiftRun} {delta : Int}
    (h : shiftOf runs n = some delta) :
    ∃ r ∈ runs.toList, inShiftRun r n = true ∧ r.2.2.2 = delta := by
  unfold shiftOf at h
  obtain ⟨r, hr, hdelta⟩ := Option.map_eq_some_iff.1 h
  have hin : inShiftRun r n = true := Array.find?_some (p := fun r => inShiftRun r n) hr
  exact ⟨r, Array.mem_toList_iff.2 (Array.mem_of_find?_eq_some hr), hin, hdelta⟩

theorem shiftOf_eq_none {runs : Array ShiftRun} (h : ∀ r ∈ runs.toList, inShiftRun r n = false) :
    shiftOf runs n = none := by
  unfold shiftOf
  rw [Option.map_eq_none_iff, Array.find?_eq_none]
  intro r hr
  rw [Bool.not_eq_true]
  exact h r (Array.mem_toList_iff.2 hr)

/-! ## Characters -/

/-- The runs of the characters that have another lower case. -/
def changedRuns : List ShiftRun := (0x130, 0x130, 1, 0) :: lowerRuns.toList

/-- **The shifts of the mapping** lead to characters, and past the runs. -/
theorem lowerRuns_lead :
    (lowerRuns.toList.all fun r => leadsToChars r && changedRuns.all (leadsPast r)) = true := by
  decide +kernel

theorem bounds_of_isUpper (h : c.isUpper = true) : 0x41 ≤ c.toNat ∧ c.toNat ≤ 0x5A := by
  simp only [Char.isUpper, decide_eq_true_eq] at h
  exact ⟨UInt32.le_iff_toNat_le.1 h.1, UInt32.le_iff_toNat_le.1 h.2⟩

/-- A character in none of the runs is its own lower case. -/
theorem lowerChar_of_outside (h : ∀ r ∈ changedRuns, inShiftRun r c.toNat = false) :
    lowerChar c = [c] := by
  unfold lowerChar
  by_cases ha : c.toNat < 128
  · have hcapitals : (0x41, 0x5A, 1, 32) ∈ changedRuns := by decide
    have hupper : ¬c.isUpper = true := by
      intro hu
      obtain ⟨hfirst, hlast⟩ := bounds_of_isUpper hu
      have hin : inShiftRun (0x41, 0x5A, 1, 32) c.toNat = true :=
        inShiftRun_iff.2 ⟨hfirst, hlast, Nat.mod_one _⟩
      rw [h _ hcapitals] at hin
      cases hin
    rw [if_pos ha, Char.toLower_eq_of_not_isUpper hupper]
  · have hne : ¬(c == '\u0130') = true := by
      intro he
      have hdotted := h _ List.mem_cons_self
      rw [beq_iff_eq.1 he] at hdotted
      revert hdotted
      decide
    have hshift : shiftOf lowerRuns c.toNat = none :=
      shiftOf_eq_none fun r hr => h r (List.mem_cons_of_mem _ hr)
    rw [if_neg ha, if_neg hne]
    unfold shifted
    rw [hshift]

/-- Characters that lower case gives in other ways than by a run. -/
theorem lowerChar_of_code (h : c.toNat ∈ [0x69, 0x307, 0x3C2, 0x3C3]) : lowerChar c = [c] := by
  have hout : ∀ n ∈ [0x69, 0x307, 0x3C2, 0x3C3], ∀ r ∈ changedRuns, inShiftRun r n = false := by
    decide +kernel
  exact lowerChar_of_outside (hout c.toNat h)

theorem toNat_toLower_lt (h : c.toNat < 128) : c.toLower.toNat < 128 := by
  have hascii : ∀ n < 128, (Char.ofNat n).toLower.toNat < 128 := by decide
  rw [← Char.ofNat_toNat c]
  exact hascii c.toNat h

/-- Lower case does not depend on the case of an ASCII letter. -/
theorem lowerChar_toLower (c : Char) : lowerChar c.toLower = lowerChar c := by
  by_cases h : c.toNat < 128
  · unfold lowerChar
    rw [if_pos (toNat_toLower_lt h), if_pos h, Char.toLower_toLower_eq_toLower]
  · have hupper : ¬c.isUpper = true := fun hu => h (by have := (bounds_of_isUpper hu).2; omega)
    rw [Char.toLower_eq_of_not_isUpper hupper]

/-- **A shift of the mapping** leads to a character in none of the runs. -/
theorem outside_of_shiftOf {delta : Int} (h : shiftOf lowerRuns n = some delta) :
    ∀ r ∈ changedRuns, inShiftRun r (Char.ofNat (n + delta).toNat).toNat = false := by
  obtain ⟨r, hr, hin, rfl⟩ := exists_of_shiftOf h
  have hlead := List.all_eq_true.1 lowerRuns_lead r hr
  rw [Bool.and_eq_true, List.all_eq_true] at hlead
  obtain ⟨hfirst, hvalid⟩ := isValidChar_of_leadsToChars hlead.1 hin
  rw [Char.toNat_ofNat, if_pos hvalid]
  exact fun r' hr' => not_inShiftRun_of_leadsPast (hlead.2 r' hr') hfirst hin

/-- **A character in lower case** is its own lower case. -/
theorem lowerChar_of_mem_lowerChar (h : d ∈ lowerChar c) : lowerChar d = [d] := by
  unfold lowerChar at h
  by_cases ha : c.toNat < 128
  · rw [if_pos ha, List.mem_singleton] at h
    rw [h, lowerChar_toLower]
    unfold lowerChar
    rw [if_pos ha]
  rw [if_neg ha] at h
  by_cases hi : (c == '\u0130') = true
  · rw [if_pos hi] at h
    rcases List.mem_cons.1 h with rfl | h
    · exact lowerChar_of_code (by decide)
    · exact lowerChar_of_code (by rw [List.mem_singleton.1 h]; decide)
  rw [if_neg hi, List.mem_singleton] at h
  unfold shifted at h
  cases hs : shiftOf lowerRuns c.toNat with
  | none =>
    rw [hs] at h
    have hd : d = c := h
    unfold lowerChar shifted
    rw [hd, if_neg ha, if_neg hi, hs]
  | some delta =>
    rw [hs] at h
    have hd : d = Char.ofNat (c.toNat + delta).toNat := h
    refine lowerChar_of_outside ?_
    rw [hd]
    exact outside_of_shiftOf hs

theorem ne_sigma_of_lowerChar (h : lowerChar c = [c]) : c ≠ 'Σ' := by
  rintro rfl
  revert h
  decide +kernel

/-! ## Texts -/

/-- **A text of characters in lower case** is its own lower case. -/
theorem lowerAfter_eq_self (h : ∀ c ∈ cs, lowerChar c = [c]) (before : List Char) :
    lowerAfter before cs = cs := by
  induction cs generalizing before with
  | nil => rfl
  | cons c rest ih =>
    rw [List.forall_mem_cons] at h
    have hne : ¬(c == 'Σ') = true := fun he => ne_sigma_of_lowerChar h.1 (beq_iff_eq.1 he)
    rw [lowerAfter, if_neg hne, h.1, ih h.2, List.singleton_append]

/-- Where there is no sigma, each character has its own lower case. -/
theorem lowerAfter_eq_flatMap (h : 'Σ' ∉ cs) (before : List Char) :
    lowerAfter before cs = cs.flatMap lowerChar := by
  induction cs generalizing before with
  | nil => rfl
  | cons c rest ih =>
    rw [List.mem_cons, not_or] at h
    have hne : ¬(c == 'Σ') = true := fun he => h.1 (beq_iff_eq.1 he).symm
    rw [lowerAfter, if_neg hne, ih h.2, List.flatMap_cons]

theorem lowerChar_of_mem_lowerAfter {before : List Char} (h : d ∈ lowerAfter before cs) :
    lowerChar d = [d] := by
  induction cs generalizing before with
  | nil => exact absurd h List.not_mem_nil
  | cons c rest ih =>
    rw [lowerAfter, List.mem_append] at h
    rcases h with h | h
    · split at h
      · split at h
        · exact lowerChar_of_code (by rw [List.mem_singleton.1 h]; decide)
        · exact lowerChar_of_code (by rw [List.mem_singleton.1 h]; decide)
      · exact lowerChar_of_mem_lowerChar h
    · exact ih h

/-- **The texts in lower case** are those of characters in lower case. -/
theorem toLower_eq_self_iff : toLower cs = cs ↔ ∀ c ∈ cs, lowerChar c = [c] :=
  ⟨fun h _ hc => lowerChar_of_mem_lowerAfter (h ▸ hc), fun h => lowerAfter_eq_self h []⟩

/-- **Lower case is reached in one step.** -/
theorem toLower_toLower (cs : List Char) : toLower (toLower cs) = toLower cs :=
  toLower_eq_self_iff.2 fun _ hc => lowerChar_of_mem_lowerAfter hc

theorem flatMap_lowerChar (cs : List Char) :
    cs.flatMap lowerChar = (cs.map Char.toLower).flatMap lowerChar := by
  rw [List.flatMap_map]
  exact List.flatMap_congr fun c _ => (lowerChar_toLower c).symm

/-- A capital sigma is no ASCII letter. -/
theorem not_mem_sigma (h : ∀ c ∈ text, lowerChar c = [c])
    (hcs : cs.map Char.toLower = text.map Char.toLower) : 'Σ' ∉ cs := by
  intro hmem
  have hsigma : 'Σ' ∈ text.map Char.toLower := hcs ▸ List.mem_map.2 ⟨_, hmem, by decide⟩
  obtain ⟨d, hd, hlower⟩ := List.mem_map.1 hsigma
  have hsmall : lowerChar 'Σ' = ['σ'] := by decide +kernel
  have hone : [d] = ['σ'] := by rw [← h d hd, ← lowerChar_toLower, hlower, hsmall]
  rw [List.singleton_inj.1 hone] at hlower
  revert hlower
  decide

/-- **A text in any case of its ASCII letters** has the same lower case. -/
theorem toLower_of_map_toLower (h : toLower text = text)
    (hcs : cs.map Char.toLower = text.map Char.toLower) : toLower cs = text := by
  have hlower : ∀ c ∈ text, lowerChar c = [c] := toLower_eq_self_iff.1 h
  calc toLower cs = cs.flatMap lowerChar := lowerAfter_eq_flatMap (not_mem_sigma hlower hcs) []
    _ = text.flatMap lowerChar := by rw [flatMap_lowerChar, hcs, ← flatMap_lowerChar]
    _ = toLower text := (lowerAfter_eq_flatMap (not_mem_sigma hlower rfl) []).symm
    _ = text := h

theorem lowerString_lowerString (s : String) : lowerString (lowerString s) = lowerString s := by
  unfold lowerString
  rw [String.toList_ofList, toLower_toLower]

end LiterateSite.Text
