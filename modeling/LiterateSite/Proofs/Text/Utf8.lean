import Mathlib.Data.List.Basic
import LiterateSite.Text.Utf8

/-!
# Reading back what has been written

* `lead2_iff`, `lead3_iff`, `lead4_iff`, `tail_iff`: the classes of bytes as bounds on numbers.
* `decodeLossy_encodeChar`: the bytes of one character are read as that character.
* `decodeLossy_encode`: **the bytes of a text are read as the text.**
-/

namespace LiterateSite.Text.Utf8

theorem ascii_iff (b : UInt8) : b < 0x80 ↔ b.toNat < 128 := by
  rw [UInt8.lt_iff_toNat_lt]; rfl

theorem between_iff (low high b : UInt8) :
    (decide (low ≤ b) && decide (b ≤ high)) = true ↔ low.toNat ≤ b.toNat ∧ b.toNat ≤ high.toNat := by
  rw [Bool.and_eq_true, decide_eq_true_eq, decide_eq_true_eq, UInt8.le_iff_toNat_le,
    UInt8.le_iff_toNat_le]

theorem tail_iff (b : UInt8) : isTail b = true ↔ 128 ≤ b.toNat ∧ b.toNat ≤ 191 :=
  between_iff _ _ b

theorem lead2_iff (b : UInt8) : isLead2 b = true ↔ 194 ≤ b.toNat ∧ b.toNat ≤ 223 :=
  between_iff _ _ b

theorem lead3_iff (b : UInt8) : isLead3 b = true ↔ 224 ≤ b.toNat ∧ b.toNat ≤ 239 :=
  between_iff _ _ b

theorem lead4_iff (b : UInt8) : isLead4 b = true ↔ 240 ≤ b.toNat ∧ b.toNat ≤ 244 :=
  between_iff _ _ b

/-- The bounds of the second byte, for each lead byte that has bounds of its own. -/
theorem second_iff (a b : UInt8) : isSecond a b = true ↔
    (if a.toNat = 224 then 160 ≤ b.toNat ∧ b.toNat ≤ 191
      else if a.toNat = 237 then 128 ≤ b.toNat ∧ b.toNat ≤ 159
      else if a.toNat = 240 then 144 ≤ b.toNat ∧ b.toNat ≤ 191
      else if a.toNat = 244 then 128 ≤ b.toNat ∧ b.toNat ≤ 143
      else 128 ≤ b.toNat ∧ b.toNat ≤ 191) := by
  have hE : ∀ k : UInt8, (a == k) = true ↔ a.toNat = k.toNat := fun k => by
    rw [beq_iff_eq, UInt8.toNat_inj]
  unfold isSecond
  simp only [hE]
  split_ifs <;>
    simp_all only [UInt8.reduceToNat, Bool.and_eq_true, decide_eq_true_eq, UInt8.le_iff_toNat_le,
      tail_iff, not_true_eq_false]

/-! ## One character -/

theorem decodeLossy_one {a : UInt8} (ha : a.toNat < 128) (rest : List UInt8) :
    decodeLossy (a :: rest) = Char.ofNat a.toNat :: decodeLossy rest := by
  rw [decodeLossy.eq_def]
  simp only [(ascii_iff a).2 ha, if_true]

theorem decodeLossy_two {a b : UInt8} (ha : isLead2 a = true) (hb : isTail b = true)
    (rest : List UInt8) : decodeLossy (a :: b :: rest) = char2 a b :: decodeLossy rest := by
  have h := (lead2_iff a).1 ha
  have h1 : ¬ a < 0x80 := by rw [ascii_iff]; omega
  rw [decodeLossy.eq_def]
  simp only [h1, ha, hb, if_true, if_false]

theorem decodeLossy_three {a b c : UInt8} (ha : isLead3 a = true) (hb : isSecond a b = true)
    (hc : isTail c = true) (rest : List UInt8) :
    decodeLossy (a :: b :: c :: rest) = char3 a b c :: decodeLossy rest := by
  have h := (lead3_iff a).1 ha
  have h1 : ¬ a < 0x80 := by rw [ascii_iff]; omega
  have h2 : ¬ isLead2 a = true := by rw [lead2_iff]; omega
  rw [decodeLossy.eq_def]
  simp only [h1, h2, ha, hb, hc, if_true, if_false, Bool.false_eq_true]

theorem decodeLossy_four {a b c d : UInt8} (ha : isLead4 a = true) (hb : isSecond a b = true)
    (hc : isTail c = true) (hd : isTail d = true) (rest : List UInt8) :
    decodeLossy (a :: b :: c :: d :: rest) = char4 a b c d :: decodeLossy rest := by
  have h := (lead4_iff a).1 ha
  have h1 : ¬ a < 0x80 := by rw [ascii_iff]; omega
  have h2 : ¬ isLead2 a = true := by rw [lead2_iff]; omega
  have h3 : ¬ isLead3 a = true := by rw [lead3_iff]; omega
  rw [decodeLossy.eq_def]
  simp only [h1, h2, h3, ha, hb, hc, hd, if_true, if_false, Bool.false_eq_true]

/-- A code point is no surrogate and not past the last one. -/
theorem toNat_valid (c : Char) :
    c.val.toNat < 55296 ∨ (57343 < c.val.toNat ∧ c.val.toNat < 1114112) := c.valid

theorem ofNat_val (c : Char) {n : Nat} (h : n = c.val.toNat) : Char.ofNat n = c := by
  rw [h]; exact Char.ofNat_toNat c

/-- **The bytes of one character**, in front of others, are read as that character. -/
theorem decodeLossy_encodeChar (c : Char) (rest : List UInt8) :
    decodeLossy (String.utf8EncodeChar c ++ rest) = c :: decodeLossy rest := by
  have hv := toNat_valid c
  have hn : ∀ x : Nat, x < 256 → (UInt8.ofNat x).toNat = x := fun x hx => by
    rw [UInt8.toNat_ofNat']; omega
  unfold String.utf8EncodeChar
  simp only
  generalize hx : c.val.toNat = v at hv
  -- the second byte is within its bounds since the code point is no surrogate
  split_ifs with h1 h2 h3
  · -- one byte
    have ha := hn v (by omega)
    rw [List.singleton_append, decodeLossy_one (by omega), ofNat_val c (by omega)]
  · -- two bytes
    have ha := hn (v / 64 % 32 + 192) (by omega)
    have hb := hn (v % 64 + 128) (by omega)
    rw [List.cons_append, List.cons_append, List.nil_append,
      decodeLossy_two ((lead2_iff _).2 (by omega)) ((tail_iff _).2 (by omega))]
    unfold char2 payload
    rw [ofNat_val c (by omega)]
  · -- three bytes
    have ha := hn (v / 4096 % 16 + 224) (by omega)
    have hb := hn (v / 64 % 64 + 128) (by omega)
    have hc := hn (v % 64 + 128) (by omega)
    rw [List.cons_append, List.cons_append, List.cons_append, List.nil_append,
      decodeLossy_three ((lead3_iff _).2 (by omega))
        ((second_iff _ _).2 (by rw [ha, hb]; split_ifs <;> omega)) ((tail_iff _).2 (by omega))]
    unfold char3 payload
    rw [ofNat_val c (by omega)]
  · -- four bytes
    have ha := hn (v / 262144 % 8 + 240) (by omega)
    have hb := hn (v / 4096 % 64 + 128) (by omega)
    have hc := hn (v / 64 % 64 + 128) (by omega)
    have hd := hn (v % 64 + 128) (by omega)
    rw [List.cons_append, List.cons_append, List.cons_append, List.cons_append, List.nil_append,
      decodeLossy_four ((lead4_iff _).2 (by omega))
        ((second_iff _ _).2 (by rw [ha, hb]; split_ifs <;> omega)) ((tail_iff _).2 (by omega))
        ((tail_iff _).2 (by omega))]
    unfold char4 payload
    rw [ofNat_val c (by omega)]

/-! ## Texts -/

/-- **The bytes of a text are read as the text**, also in front of other bytes. -/
theorem decodeLossy_encode_append (cs : List Char) (rest : List UInt8) :
    decodeLossy (encode cs ++ rest) = cs ++ decodeLossy rest := by
  induction cs with
  | nil => rfl
  | cons c cs ih =>
    have h : encode (c :: cs) = String.utf8EncodeChar c ++ encode cs := rfl
    rw [h, List.append_assoc, decodeLossy_encodeChar, ih, List.cons_append]

@[simp] theorem decodeLossy_encode (cs : List Char) : decodeLossy (encode cs) = cs := by
  have h := decodeLossy_encode_append cs []
  rwa [List.append_nil, decodeLossy_nil, List.append_nil] at h

end LiterateSite.Text.Utf8
