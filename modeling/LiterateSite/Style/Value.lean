import LiterateSite.Style.Sum

/-!
# Words of values

The words that values of known properties are made of.

* `length?`, `colorText?`, `time?`, `keyword?`, `easing?`, `image?`: words of one kind, in their
  shortest form.
* `wordText?`: a word of any kind.
* `listText?`: words with the blanks that they need.
* `Slot`, `fill?`: a value whose words stand in any order, each with a usual text.
-/

namespace LiterateSite.Style

/-- A name in small letters, as a text. -/
def lowered (name : List Char) : String := String.ofList (lower name)

/-- Words that every property takes alone. -/
def wideWords : List String := ["inherit", "initial", "unset", "revert", "revert-layer"]

/-! ## Words of one kind -/

/-- One of some keywords. -/
def keyword? (names : List String) : Piece → Option (List Char)
  | .token (.ident name) => if names.contains (lowered name) then some (lower name) else none
  | _ => none

/-- A number without unit. -/
def number? : Piece → Option Amount
  | .token (.number digits []) => some (Amount.read digits)
  | _ => none

/-- The functions whose arguments are sums. -/
def sumFunctions : List String := ["min", "max", "clamp"]

/-- The least or largest of amounts, if they have one unit. -/
def extreme? (least : Bool) : List Sum → Option Sum
  | [[(unit, a)]] => some [(unit, a)]
  | [(unit, a)] :: rest =>
    match extreme? least rest with
    | some [(v, b)] =>
      if unit == v then some [(unit, if (if least then b.lt a else a.lt b) then b else a)] else none
    | _ => none
  | _ => none

/-- A sum, or the least or largest of some. -/
def reckoned? : Piece → Option (List Char)
  | .call name inside =>
    if lowered name == "calc" then (sum? inside).map Sum.text
    else if sumFunctions.contains (lowered name) then
      ((commaParts inside).mapM sum?).map fun sums =>
        match if lowered name == "clamp" then none else extreme? (lowered name == "min") sums with
        | some one => one.text
        | none => lower name ++ '(' :: ((sums.map Sum.bare).intersperse [',']).flatten ++ [')']
    else none
  | _ => none

/-- A length or a share; a length of zero has no unit. -/
def length? : Piece → Option (List Char)
  | .token (.number digits unit) =>
    let a := Amount.read digits
    if unit == ['%'] || isLengthUnit unit then some (Sum.amountText (lower unit) a)
    else if unit.isEmpty && a.isZero then some ['0']
    else none
  | p => reckoned? p

/-- A colour: a name, digits or a function. -/
def colorText? : Piece → Option (List Char)
  | .token (.ident name) =>
    if lowered name == "currentcolor" then some "currentColor".toList
    else (Color.named? (lowered name)).map Color.shortest
  | p => p.color?.map Color.shortest

/-- A span of time. -/
def time? : Piece → Option (List Char)
  | .token (.number digits unit) =>
    if lowered unit == "s" || lowered unit == "ms" then some (numberText digits unit) else none
  | _ => none

/-! ## Words of any kind -/

/-- Words one after the other; commas, slashes and names of lines in brackets need no blanks. -/
def joinWords : Bool → List (List Char) → List Char
  | _, [] => []
  | tight, w :: rest =>
    let mark := w == [','] || w == ['/'] || w.head? == some '['
    (if tight || mark then w else ' ' :: w) ++ joinWords mark rest

/-- How names are written in a value. -/
structure Names where
  /-- Names of colours are written as colours. -/
  color : Bool := false
  /-- Names keep their large letters. -/
  asWritten : Bool := false

mutual

/-- A word in its shortest form; none if it hangs on a variable. -/
def wordText? (names : Names) : Nat → Piece → Option (List Char)
  | 0, _ => none
  | fuel + 1, p =>
    match reckoned? p, if names.color then colorText? p else p.color?.map Color.shortest with
    | some text, _ => some text
    | none, some text => some text
    | none, none =>
      match p with
      | .token (.ident name) => some (nameText (if names.asWritten then name else lower name))
      | .token (.number digits unit) =>
        if isLengthUnit unit then some (Sum.amountText (lower unit) (Amount.read digits))
        else if unit == ['%'] then some ((Amount.read digits).text ++ unit)
        else some (numberText digits unit)
      | .token (.string content) => some (stringText content)
      | .token (.url address) => some (urlText address)
      | .token (.mark c) => if c == ',' || c == '/' then some [c] else none
      | .token _ => none
      | .bracket '[' inside => (listFrom? names fuel inside).map fun text => '[' :: text ++ [']']
      | .bracket .. => none
      | .call name inside =>
        match lowered name, words inside with
        | "url", [.token (.string address)] => some (urlText address)
        | "var", _ | "env", _ | "calc", _ => none
        | _, _ => (listFrom? names fuel inside).map fun text => nameText name ++ '(' :: text ++ [')']

/-- Words with the blanks that they need. -/
def listFrom? (names : Names) : Nat → List Piece → Option (List Char)
  | 0, _ => none
  | fuel + 1, ps => ((words ps).mapM (wordText? names fuel)).map (joinWords true)

end

/-- Words with the blanks that they need. -/
def listText? (names : Names) (ps : List Piece) : Option (List Char) :=
  listFrom? names (2 * Piece.sizes ps + 2) ps

/-- A word of any kind. -/
def word? (names : Names) (p : Piece) : Option (List Char) := wordText? names (2 * p.size + 2) p

/-- The functions that give a picture. -/
def imageFunctions : List String :=
  ["linear-gradient", "repeating-linear-gradient", "radial-gradient", "repeating-radial-gradient",
    "conic-gradient", "repeating-conic-gradient", "url", "image-set"]

/-- The direction of a gradient as an angle. -/
def gradientAngle? (first : List Piece) : Option (List Char) :=
  match first with
  | [.token (.ident toward), .token (.ident side)] =>
    if lowered toward != "to" then none
    else
      match lowered side with
      | "right" => some "90deg".toList
      | "left" => some "270deg".toList
      | "top" => some "0deg".toList
      | "bottom" => some []
      | _ => none
  | [.token (.number digits unit)] =>
    if lowered unit == "deg" && (Amount.read digits).text == "180".toList then some [] else none
  | _ => none

/-- A gradient in its shortest form: one from top to bottom needs no direction. -/
def gradient? (name : List Char) (inside : List Piece) : Option (List Char) :=
  let parts := (commaParts inside).map words
  let (direction, stops) :=
    match parts with
    | first :: rest =>
      if (lowered name).endsWith "linear-gradient" then
        match gradientAngle? first with
        | some [] => ([], rest)
        | some angle => ([angle], rest)
        | none => ([], parts)
      else ([], parts)
    | [] => ([], [])
  (stops.mapM (listText? ⟨true, false⟩)).map fun texts =>
    lower name ++ '(' :: ((direction ++ texts).intersperse [',']).flatten ++ [')']

/-- A picture. -/
def image? : Piece → Option (List Char)
  | .token (.url address) => some (urlText address)
  | .call name inside =>
    if !imageFunctions.contains (lowered name) then none
    else if (lowered name).endsWith "gradient" then gradient? name inside
    else word? ⟨false, false⟩ (.call name inside)
  | _ => none

/-- The course of a change: a name, or a function with a name of its own if it has one. -/
def easing? (p : Piece) : Option (List Char) :=
  match keyword? ["ease", "linear", "ease-in", "ease-out", "ease-in-out", "step-start", "step-end"] p with
  | some name => some name
  | none =>
    match p with
    | .call name _ =>
      if lowered name == "cubic-bezier" || lowered name == "steps" then
        (word? ⟨false, false⟩ p).map fun text =>
          match String.ofList text with
          | "cubic-bezier(.25,.1,.25,1)" => "ease".toList
          | "cubic-bezier(0,0,1,1)" => "linear".toList
          | "cubic-bezier(.42,0,1,1)" => "ease-in".toList
          | "cubic-bezier(0,0,.58,1)" => "ease-out".toList
          | "cubic-bezier(.42,0,.58,1)" => "ease-in-out".toList
          | "steps(1,start)" => "step-start".toList
          | "steps(1,end)" | "steps(1)" => "step-end".toList
          | _ => text
      else none
    | _ => none

/-! ## Words in any order -/

/-- A place for one word of a value, and the text that it has without one. -/
structure Slot where
  reads : Piece → Option (List Char)
  usual : List Char

/-- Put a word into the first free place that reads it. -/
def place? (p : Piece) : List (Slot × Option (List Char)) → Option (List (Slot × Option (List Char)))
  | [] => none
  | (slot, some text) :: rest => (place? p rest).map ((slot, some text) :: ·)
  | (slot, none) :: rest =>
    match slot.reads p with
    | some text => some ((slot, some text) :: rest)
    | none => (place? p rest).map ((slot, none) :: ·)

/-- The texts of places after all words are put into them; none if a word finds no place. -/
def fill? (slots : List Slot) (ps : List Piece) : Option (List (List Char)) :=
  if ps.isEmpty then none
  else
    (ps.foldlM (fun places p => place? p places) (slots.map fun slot => (slot, none))).map fun places =>
      places.map fun (slot, text) => text.getD slot.usual

/-- The texts that are not usual, or else a text of their own. -/
def unusual (slots : List Slot) (texts : List (List Char)) (spare : List Char) : List Char :=
  match (slots.zip texts).filterMap fun (slot, text) => if text == slot.usual then none else some text with
  | [] => spare
  | texts => joinWords true texts

end LiterateSite.Style
