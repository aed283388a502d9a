import LiterateSite.Text.Case
import LiterateSite.Text.Sha256

/-!
# What an example goes by

* `displayName`: the label of an example, made from its id.
* `prompt`: the first line of its transcript.
* `sourceDigest`: tells the states of its source apart.
-/

namespace LiterateSite.Site

open Text

/-- The id with its first character in upper and the rest in lower case. -/
def displayName (id : String) : String :=
  match id.toList with
  | [] => ""
  | c :: rest => String.ofList (upperChar c ++ toLower rest)

/-- The line that shows how the example is run. -/
def prompt (id : String) : List Char := "$ run ".toList ++ id.toList ++ ['\n']

/-- The digest of the prompt and the source. -/
def sourceDigest (id : String) (source : List UInt8) : String :=
  Sha256.hex (Utf8.encode (prompt id) ++ source)

end LiterateSite.Site
