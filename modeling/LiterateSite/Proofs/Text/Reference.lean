import Mathlib.Data.List.TakeWhile
import LiterateSite.Text.Number
import LiterateSite.Text.Utf8

/-!
# Relative references

What a reference such as `a.html` names. A reference that begins with a scheme is not relative; the
path of another one goes up to its query or fragment, and writes bytes, some of them as a percent
sign with two digits.

* `percentDecode`: the bytes that a path writes. `percentDecode_eq_encode_iff`: **they are those of
  its characters exactly if no byte is written as a code.**
* `relativePath?`: the path that a reference names.
* `Portable`, `relativePath?_eq_some_iff`: **the names that a reference of the same characters
  names.**
* `portable_append_ending`: the ending of a page makes no difference.
-/

namespace LiterateSite.Text.Reference

variable {c : Char} {cs rest name : List Char} {byte : UInt8}

/-! ## Codes of bytes -/

/-- The byte whose code a text begins with: a percent sign and two hexadecimal digits. -/
def codeAt? : List Char → Option UInt8
  | '%' :: a :: b :: _ => do
    let high ← hexValue? a
    let low ← hexValue? b
    return UInt8.ofNat (16 * high + low)
  | _ => none

/-- Somewhere in the text is the code of a byte. -/
def hasCode : List Char → Bool
  | [] => false
  | c :: rest => (codeAt? (c :: rest)).isSome || hasCode rest

/-- The bytes that a path writes. A percent sign that begins no code stands for itself. -/
def percentDecode : List Char → List UInt8
  | [] => []
  | c :: rest =>
    match codeAt? (c :: rest), rest with
    | some byte, _ :: _ :: later => byte :: percentDecode later
    | _, rest => String.utf8EncodeChar c ++ percentDecode rest

theorem hasCode_cons (c : Char) (rest : List Char) :
    hasCode (c :: rest) = ((codeAt? (c :: rest)).isSome || hasCode rest) := rfl

theorem percentDecode_cons (h : codeAt? (c :: rest) = none) :
    percentDecode (c :: rest) = String.utf8EncodeChar c ++ percentDecode rest := by
  rw [percentDecode.eq_def]
  simp only [h]

/-- A code has three characters, and it is read as its byte. -/
theorem percentDecode_code (h : codeAt? (c :: rest) = some byte) :
    ∃ a b later, rest = a :: b :: later ∧
      percentDecode (c :: rest) = byte :: percentDecode later := by
  match rest, h with
  | [], h => simp [codeAt?] at h
  | [a], h => simp [codeAt?] at h
  | a :: b :: later, h =>
    refine ⟨a, b, later, rfl, ?_⟩
    rw [percentDecode.eq_def]
    simp only [h]

theorem length_encodeChar_pos (c : Char) : 0 < (String.utf8EncodeChar c).length := by
  rw [String.length_utf8EncodeChar]
  exact c.utf8Size_pos

theorem length_encode_cons (c : Char) (cs : List Char) :
    (Utf8.encode (c :: cs)).length =
      (String.utf8EncodeChar c).length + (Utf8.encode cs).length := by
  unfold Utf8.encode
  rw [List.flatMap_cons, List.length_append]

/-- **A path writes at most as many bytes** as its characters have, and fewer if there is a code. -/
theorem length_percentDecode (cs : List Char) :
    (percentDecode cs).length + (if hasCode cs then 1 else 0) ≤ (Utf8.encode cs).length := by
  induction hn : cs.length using Nat.strong_induction_on generalizing cs with
  | _ n ih =>
    cases cs with
    | nil => exact Nat.zero_le _
    | cons c rest =>
      subst hn
      have hpos := length_encodeChar_pos c
      have hlen := length_encode_cons c rest
      cases hc : codeAt? (c :: rest) with
      | none =>
        have hrest := ih rest.length (Nat.lt_succ_self _) rest rfl
        rw [percentDecode_cons hc, hasCode_cons, hc, Option.isSome_none, Bool.false_or,
          List.length_append]
        omega
      | some byte =>
        -- a code writes one byte and has three characters
        obtain ⟨a, b, later, rfl, hd⟩ := percentDecode_code hc
        have hlater := ih later.length (by simp only [List.length_cons]; omega) later rfl
        have ha := length_encode_cons a (b :: later)
        have hb := length_encode_cons b later
        have hposa := length_encodeChar_pos a
        rw [hd, List.length_cons]
        split <;> omega

/-- **A path writes the bytes of its characters** exactly if there is no code in it. -/
theorem percentDecode_eq_encode_iff : percentDecode cs = Utf8.encode cs ↔ hasCode cs = false := by
  constructor
  · intro h
    have hlen := length_percentDecode cs
    rw [h] at hlen
    by_contra hcode
    rw [if_pos (Bool.of_not_eq_false hcode)] at hlen
    omega
  · intro h
    induction cs with
    | nil => rfl
    | cons c rest ih =>
      rw [hasCode_cons, Bool.or_eq_false_iff, Option.isSome_eq_false_iff,
        Option.isNone_iff_eq_none] at h
      rw [percentDecode_cons h.1, ih h.2]
      rfl

/-! ## References -/

/-- A character that may stand in a scheme. -/
def isSchemeChar (c : Char) : Bool := c.isAlphanum || c == '+' || c == '-' || c == '.'

/-- The reference begins with a scheme: a letter, more such characters, and a colon. -/
def hasScheme (ref : List Char) : Bool :=
  ref.head?.any Char.isAlpha && (ref.dropWhile isSchemeChar).head? == some ':'

/-- A character that neither begins a query nor a fragment. -/
def inPath (c : Char) : Bool := c != '?' && c != '#'

/-- **The path that a relative reference names**, byte by byte. -/
def relativePath? (ref : List Char) : Option (List UInt8) :=
  if hasScheme ref then none else some (percentDecode (ref.takeWhile inPath))

/-- A name that can stand in a reference as it is. -/
structure Portable (name : List Char) : Prop where
  no_scheme : hasScheme name = false
  in_path : name.all inPath = true
  no_code : hasCode name = false

instance (name : List Char) : Decidable (Portable name) :=
  decidable_of_iff (hasScheme name = false ∧ name.all inPath = true ∧ hasCode name = false)
    ⟨fun h => ⟨h.1, h.2.1, h.2.2⟩, fun h => ⟨h.1, h.2, h.3⟩⟩

theorem eq_nil_of_length_encode (h : (Utf8.encode cs).length = 0) : cs = [] := by
  cases cs with
  | nil => rfl
  | cons c rest =>
    rw [length_encode_cons] at h
    have hpos := length_encodeChar_pos c
    omega

/-- **The names that a reference names** that is written with their characters. -/
theorem relativePath?_eq_some_iff :
    relativePath? name = some (Utf8.encode name) ↔ Portable name := by
  unfold relativePath?
  constructor
  · intro h
    split at h
    · cases h
    · next hs =>
      have hpath := Option.some.inj h
      -- no byte of the name is missing, so the path is all of it
      have hall : name.takeWhile inPath ++ name.dropWhile inPath = name :=
        List.takeWhile_append_dropWhile
      have hdrop : name.dropWhile inPath = [] := by
        have hle := length_percentDecode (name.takeWhile inPath)
        rw [hpath] at hle
        have hlen := congrArg (fun cs => (Utf8.encode cs).length) hall
        simp only [Utf8.encode_append, List.length_append] at hlen
        exact eq_nil_of_length_encode (by omega)
      rw [hdrop, List.append_nil] at hall
      rw [hall] at hpath
      refine ⟨Bool.eq_false_iff.2 hs, ?_, percentDecode_eq_encode_iff.1 hpath⟩
      rw [List.all_eq_true]
      exact List.dropWhile_eq_nil_iff.1 hdrop
  · intro h
    rw [if_neg (by rw [h.no_scheme]; exact Bool.false_ne_true),
      List.takeWhile_eq_self_iff.2 (List.all_eq_true.1 h.in_path),
      percentDecode_eq_encode_iff.2 h.no_code]

example : relativePath? "a%2Fb.html?c#d".toList = some (Utf8.ofString "a/b.html") := by
  decide +kernel

/-! ## Endings -/

/-- An ending that a page has. -/
def ending : List Char := ".html".toList

theorem hasScheme_append_ending (name : List Char) :
    hasScheme (name ++ ending) = hasScheme name := by
  cases name with
  | nil => decide
  | cons c rest =>
    unfold hasScheme
    rw [List.cons_append, List.head?_cons, List.head?_cons, ← List.cons_append,
      List.dropWhile_append]
    -- the ending belongs to what may stand in a scheme, and a colon does not follow
    split
    · next h =>
      rw [List.isEmpty_iff.1 h]
      rfl
    · next h =>
      cases hd : (c :: rest).dropWhile isSchemeChar with
      | nil => exact absurd (List.isEmpty_iff.2 hd) h
      | cons d later => rfl

/-- No code reaches into the ending. -/
theorem codeAt?_append_ending (c : Char) (rest : List Char) :
    codeAt? (c :: rest ++ ending) = codeAt? (c :: rest) := by
  have hdot : hexValue? '.' = none := by decide
  match rest with
  | [] =>
    by_cases hc : c = '%'
    · subst hc
      rfl
    · simp [codeAt?, hc]
  | [a] =>
    by_cases hc : c = '%'
    · subst hc
      simp [codeAt?, ending, hdot]
    · simp [codeAt?, hc]
  | a :: b :: later =>
    by_cases hc : c = '%'
    · subst hc
      rfl
    · simp [codeAt?, hc]

theorem hasCode_append_ending (name : List Char) :
    hasCode (name ++ ending) = hasCode name := by
  induction name with
  | nil => decide
  | cons c rest ih =>
    rw [List.cons_append, hasCode_cons, hasCode_cons, ih, ← List.cons_append,
      codeAt?_append_ending]

/-- **The ending makes no difference.** -/
theorem portable_append_ending : Portable (name ++ ending) ↔ Portable name := by
  have hend : ending.all inPath = true := by decide
  constructor
  · intro h
    have hall := h.in_path
    rw [List.all_append, hend, Bool.and_true] at hall
    exact ⟨hasScheme_append_ending name ▸ h.no_scheme, hall, hasCode_append_ending name ▸ h.no_code⟩
  · intro h
    refine ⟨?_, ?_, ?_⟩
    · rw [hasScheme_append_ending, h.no_scheme]
    · rw [List.all_append, hend, h.in_path]
      rfl
    · rw [hasCode_append_ending, h.no_code]

end LiterateSite.Text.Reference
