/-!
# UTF-8

* `encode`: the bytes of a text.
* `decodeLossy`: the text of any bytes; each maximal piece that begins no character, or only
  the beginning of one, is read as one replacement character.
* `decode?`: the text of valid bytes only.
-/

namespace LiterateSite.Text.Utf8

/-- The bytes of a text. -/
def encode (cs : List Char) : List UInt8 := cs.flatMap String.utf8EncodeChar

/-- What an undecodable piece is read as. -/
def replacement : Char := '\uFFFD'

/-- A byte that may follow the second byte of a character. -/
def isTail (b : UInt8) : Bool := 0x80 ≤ b && b ≤ 0xBF

/-- The lead bytes of characters of two, three and four bytes. -/
def isLead2 (b : UInt8) : Bool := 0xC2 ≤ b && b ≤ 0xDF
def isLead3 (b : UInt8) : Bool := 0xE0 ≤ b && b ≤ 0xEF
def isLead4 (b : UInt8) : Bool := 0xF0 ≤ b && b ≤ 0xF4

/-- The second byte that a lead byte admits: no overlong form, no surrogate, nothing past the
last code point. -/
def isSecond (lead b : UInt8) : Bool :=
  if lead == 0xE0 then 0xA0 ≤ b && b ≤ 0xBF
  else if lead == 0xED then 0x80 ≤ b && b ≤ 0x9F
  else if lead == 0xF0 then 0x90 ≤ b && b ≤ 0xBF
  else if lead == 0xF4 then 0x80 ≤ b && b ≤ 0x8F
  else isTail b

/-- The six low bits that a tail byte carries. -/
def payload (b : UInt8) : Nat := b.toNat % 64

def char2 (a b : UInt8) : Char := Char.ofNat (a.toNat % 32 * 64 + payload b)

def char3 (a b c : UInt8) : Char :=
  Char.ofNat (a.toNat % 16 * 4096 + payload b * 64 + payload c)

def char4 (a b c d : UInt8) : Char :=
  Char.ofNat (a.toNat % 8 * 262144 + payload b * 4096 + payload c * 64 + payload d)

/-- The text of the bytes; each undecodable piece becomes one `replacement`. -/
def decodeLossy : List UInt8 → List Char
  | [] => []
  | a :: rest =>
    if a < 0x80 then Char.ofNat a.toNat :: decodeLossy rest
    else if isLead2 a then
      match rest with
      | [] => [replacement]
      | b :: after =>
        if isTail b then char2 a b :: decodeLossy after
        else replacement :: decodeLossy (b :: after)
    else if isLead3 a then
      match rest with
      | [] => [replacement]
      | b :: after =>
        if isSecond a b then
          match after with
          | [] => [replacement]
          | c :: last =>
            if isTail c then char3 a b c :: decodeLossy last
            else replacement :: decodeLossy (c :: last)
        else replacement :: decodeLossy (b :: after)
    else if isLead4 a then
      match rest with
      | [] => [replacement]
      | b :: after =>
        if isSecond a b then
          match after with
          | [] => [replacement]
          | c :: third =>
            if isTail c then
              match third with
              | [] => [replacement]
              | d :: last =>
                if isTail d then char4 a b c d :: decodeLossy last
                else replacement :: decodeLossy (d :: last)
            else replacement :: decodeLossy (c :: third)
        else replacement :: decodeLossy (b :: after)
    else replacement :: decodeLossy rest

/-- The text of the bytes, if they are valid: the lossy reading gives back valid bytes only. -/
def decode? (bytes : List UInt8) : Option (List Char) :=
  let text := decodeLossy bytes
  if encode text = bytes then some text else none

/-- The bytes of a string. -/
def ofString (s : String) : List UInt8 := encode s.toList

@[simp] theorem encode_nil : encode [] = [] := rfl

theorem encode_append (a b : List Char) : encode (a ++ b) = encode a ++ encode b := by
  simp [encode]

@[simp] theorem decodeLossy_nil : decodeLossy [] = [] := rfl

end LiterateSite.Text.Utf8
