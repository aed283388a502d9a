import LiterateSite.Proofs.Text.Utf8
import LiterateSite.Site.Naming
import LiterateSite.Text.Blank

/-!
# Digests as they are kept

* `trim_eq_self`: trimming leaves a text without blank characters as it is.
* `mem_hexOf`, `hexOf_not_blank`, `hexOf_ascii`: hexadecimal digits are not blank, and have one byte
  each.
* `kept_digest_iff`: **a digest that is written to a file and read back is recognised**, and no
  other one is.
* `length_sourceDigest`, `kept_beginning`: all digests have the same length, so **the beginning of
  one is taken for none.**
-/

namespace LiterateSite.Text

theorem dropWhile_eq_self {p : Char → Bool} {cs : List Char} (h : ∀ c ∈ cs, p c = false) :
    cs.dropWhile p = cs := by
  cases cs with
  | nil => rfl
  | cons c rest =>
    rw [List.dropWhile_cons, h c List.mem_cons_self]
    exact if_neg Bool.false_ne_true

/-- **Trimming** leaves a text without blank characters as it is. -/
theorem trim_eq_self {cs : List Char} (h : ∀ c ∈ cs, isBlank c = false) : trim cs = cs := by
  unfold trim trimEnd dropEndWhile trimStart
  rw [dropWhile_eq_self h, dropWhile_eq_self (fun c hc => h c (List.mem_reverse.1 hc)),
    List.reverse_reverse]

/-- What a digest is written with. -/
theorem mem_hexOf {bytes : List UInt8} {c : Char} (h : c ∈ Sha256.hexOf bytes) :
    ∃ n < 16, c = Sha256.hexDigit n := by
  unfold Sha256.hexOf at h
  rw [List.mem_flatMap] at h
  obtain ⟨b, -, hb⟩ := h
  have hlt := b.toNat_lt
  simp only [List.mem_cons, List.not_mem_nil, or_false] at hb
  rcases hb with rfl | rfl
  · exact ⟨_, by omega, rfl⟩
  · exact ⟨_, by omega, rfl⟩

theorem hexDigit_not_blank : ∀ n < 16, isBlank (Sha256.hexDigit n) = false := by decide

theorem hexDigit_ascii : ∀ n < 16, (Sha256.hexDigit n).toNat < 128 := by decide

theorem hexOf_not_blank (bytes : List UInt8) : ∀ c ∈ Sha256.hexOf bytes, isBlank c = false := by
  intro c hc
  obtain ⟨n, hn, rfl⟩ := mem_hexOf hc
  exact hexDigit_not_blank n hn

theorem hexOf_ascii (bytes : List UInt8) : ∀ c ∈ Sha256.hexOf bytes, c.toNat < 128 := by
  intro c hc
  obtain ⟨n, hn, rfl⟩ := mem_hexOf hc
  exact hexDigit_ascii n hn

theorem length_hexOf (bytes : List UInt8) : (Sha256.hexOf bytes).length = 2 * bytes.length := by
  induction bytes with
  | nil => rfl
  | cons b bytes ih =>
    unfold Sha256.hexOf at ih ⊢
    rw [List.flatMap_cons, List.length_append, ih, List.length_cons]
    simp only [List.length_cons, List.length_nil]
    omega

theorem length_digest (message : List UInt8) : (Sha256.digest message).length = 32 := rfl

/-- A character of one byte. -/
theorem utf8EncodeChar_ascii {c : Char} (h : c.toNat < 128) :
    String.utf8EncodeChar c = [UInt8.ofNat c.toNat] := by
  unfold String.utf8EncodeChar
  simp only
  rw [if_pos (by unfold Char.toNat at h; omega)]
  rfl

/-- **The first bytes** of a text whose characters have one byte each are those of its first
characters. -/
theorem take_encode {cs : List Char} (h : ∀ c ∈ cs, c.toNat < 128) (n : Nat) :
    (Utf8.encode cs).take n = Utf8.encode (cs.take n) := by
  induction cs generalizing n with
  | nil => simp
  | cons c cs ih =>
    cases n with
    | zero => rfl
    | succ n =>
      have hc := utf8EncodeChar_ascii (h c List.mem_cons_self)
      have hrest := ih (fun d hd => h d (List.mem_cons_of_mem _ hd)) n
      unfold Utf8.encode at hrest ⊢
      rw [List.take_succ_cons, List.flatMap_cons, List.flatMap_cons, hc, List.singleton_append,
        List.take_succ_cons, hrest, List.singleton_append]

end LiterateSite.Text

namespace LiterateSite.Site

open Text

theorem trim_sourceDigest (id : String) (source : List UInt8) :
    trim (sourceDigest id source).toList = (sourceDigest id source).toList := by
  unfold sourceDigest Sha256.hex
  rw [String.toList_ofList]
  exact trim_eq_self (hexOf_not_blank _)

/-- **A digest that has been kept** is the one that is looked for exactly if its text is. -/
theorem kept_digest_iff (id : String) (kept source : List UInt8) :
    trim (Utf8.decodeLossy (Utf8.ofString (sourceDigest id kept))) = (sourceDigest id source).toList ↔
      sourceDigest id kept = sourceDigest id source := by
  unfold Utf8.ofString
  rw [Utf8.decodeLossy_encode, trim_sourceDigest, String.toList_inj]

theorem length_sourceDigest (id : String) (source : List UInt8) :
    (sourceDigest id source).toList.length = 64 := by
  unfold sourceDigest Sha256.hex
  rw [String.toList_ofList, length_hexOf, length_digest]

/-- **The beginning of a digest** is taken for a digest only if it is all of it. -/
theorem kept_beginning {id : String} {kept source : List UInt8} {n : Nat}
    (h : trim (Utf8.decodeLossy ((Utf8.ofString (sourceDigest id kept)).take n)) =
      (sourceDigest id source).toList) :
    (Utf8.ofString (sourceDigest id kept)).take n = Utf8.ofString (sourceDigest id kept) := by
  have hlen := length_sourceDigest id source
  have hkept := length_sourceDigest id kept
  have hascii : ∀ c ∈ (sourceDigest id kept).toList, c.toNat < 128 ∧ isBlank c = false := by
    unfold sourceDigest Sha256.hex
    rw [String.toList_ofList]
    exact fun c hc => ⟨hexOf_ascii _ c hc, hexOf_not_blank _ c hc⟩
  unfold Utf8.ofString at h ⊢
  rw [take_encode fun c hc => (hascii c hc).1] at h ⊢
  -- nothing is trimmed, so the beginning is as long as a digest
  rw [Utf8.decodeLossy_encode,
    trim_eq_self fun c hc => (hascii c (List.mem_of_mem_take hc)).2] at h
  rw [← h, List.length_take, hkept] at hlen
  rw [List.take_of_length_le (by omega)]

end LiterateSite.Site
