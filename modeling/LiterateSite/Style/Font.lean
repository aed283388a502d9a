import LiterateSite.Style.Side

/-!
# Fonts

* `families?`: families of fonts, without quotes where they need none.
* `weight?`, `stretch?`, `fontSize?`, `lineHeight?`: one property of a font.
* `font?`: all of them.
* `faceText`: a property of a font that a sheet brings along.
-/

namespace LiterateSite.Style

/-- Families that are no names of fonts. -/
def genericFamilies : List String :=
  ["serif", "sans-serif", "cursive", "fantasy", "monospace", "system-ui", "emoji", "math", "fangsong",
    "ui-serif", "ui-sans-serif", "ui-monospace", "ui-rounded"]

/-- A family of fonts; a name needs no quotes unless it could be taken for something else. -/
def family? (ps : List Piece) : Option (List Char) :=
  match words ps with
  | [.token (.string content)] =>
    let bare := withBlanks ((content.splitOn ' ').map nameText)
    let taken := (genericFamilies ++ "default" :: "inherit" :: "initial" :: "unset" :: ["revert"]).contains
      (lowered content)
    some (if content.isEmpty || taken || bare.length ≥ content.length + 2 then stringText content else bare)
  | [] => none
  | ps =>
    (ps.mapM fun (p : Piece) =>
      match p with
      | .token (.ident name) => some (nameText name)
      | _ => none).map fun names =>
        match names with
        | [name] => if genericFamilies.contains (lowered name) then lower name else name
        | names => withBlanks names

def families? (ps : List Piece) : Option (List Char) := ((commaParts ps).mapM family?).map withCommas

/-- How bold a font is. -/
def weight? (p : Piece) : Option (List Char) :=
  match keyword? ["bold", "normal", "bolder", "lighter"] p with
  | some name =>
    match String.ofList name with
    | "bold" => some "700".toList
    | "normal" => some "400".toList
    | _ => some name
  | none => (number? p).map Amount.text

/-- How wide a font is. -/
def stretch? (p : Piece) : Option (List Char) :=
  match p with
  | .token (.ident name) =>
    (["ultra-condensed", "extra-condensed", "condensed", "semi-condensed", "normal", "semi-expanded",
      "expanded", "extra-expanded", "ultra-expanded"].zip
      ["50%", "62.5%", "75%", "87.5%", "100%", "112.5%", "125%", "150%", "200%"]).lookup
        (lowered name) |>.map String.toList
  | p => length? p

/-- The size of a font. -/
def fontSize? (p : Piece) : Option (List Char) :=
  (keyword? ["xx-small", "x-small", "small", "medium", "large", "x-large", "xx-large", "xxx-large",
    "smaller", "larger"] p).or (length? p)

/-- The height of a line: a number, a length or a keyword. -/
def lineHeight? (p : Piece) : Option (List Char) :=
  (keyword? ["normal"] p).or (((number? p).map Amount.text).or (length? p))

/-- What stands before the size of a font, and the rest; `none` is a word that is none of these. -/
def fontWords : List Piece → List Piece × List Piece
  | [] => ([], [])
  | p :: rest =>
    if (fontSize? p).isSome then ([], p :: rest)
    else
      let (before, after) := fontWords rest
      (p :: before, after)

/-- A font: how it looks, its size, the height of its lines and its families. -/
def font? (ps : List Piece) : Option (List Char) :=
  let (before, after) := fontWords ps
  let before := before.filter fun p => (keyword? ["normal"] p).isNone
  let slots : List Slot :=
    [⟨keyword? ["italic", "oblique"], "normal".toList⟩, ⟨keyword? ["small-caps"], "normal".toList⟩,
      ⟨weight?, "400".toList⟩, ⟨stretch?, "100%".toList⟩]
  let looks := if before.isEmpty then some [] else (fill? slots before).map fun texts => unusual slots texts []
  match after with
  | size :: rest => do
    let looks ← looks
    let size ← fontSize? size
    let (height, rest) ←
      match rest with
      | slash :: height :: more =>
        if slash.isMark '/' then (lineHeight? height).map fun text => (text, more)
        else some ("normal".toList, rest)
      | rest => some ("normal".toList, rest)
    let families ← families? rest
    let size := if height == "normal".toList then size else size ++ '/' :: height
    return withBlanks ((if looks.isEmpty then [] else [looks]) ++ [size, families])
  | [] => none

/-! ## Fonts that a sheet brings along -/

/-- A place of a font, the format in which it is there, or its name among the fonts at hand. -/
def sourceWord? : Piece → Option (List Char)
  | .token (.url address) => some (urlText address)
  | .call name inside =>
    match lowered name, words inside with
    | "url", [.token (.string address)] => some (urlText address)
    | "format", [.token (.string format)] | "format", [.token (.ident format)] =>
      some ("format(".toList ++ stringText format ++ [')'])
    | "local", _ => (family? inside).map fun text => "local(".toList ++ text ++ [')']
    | "tech", _ => (listText? ⟨false, false⟩ inside).map fun text => "tech(".toList ++ text ++ [')']
    | _, _ => none
  | _ => none

/-- Ranges of characters, each without zeros at the front. -/
def ranges? (ps : List Piece) : Option (List Char) :=
  ((commaParts ps).mapM fun part =>
    let raw := (words part).flatMap fun (p : Piece) =>
      match p with
      | .token t => t.text.map Char.toUpper
      | _ => []
    match raw with
    | 'U' :: '+' :: rest =>
      let bare := fun (digits : List Char) =>
        let text := digits.dropWhile (· == '0')
        if text.isEmpty then ['0'] else text
      some ("U+".toList ++ (((rest.splitOn '-').map bare).intersperse ['-']).flatten)
    | _ => none).map withCommas

/-- A property of a font that a sheet brings along. -/
def faceText (property : List Char) (value : List Piece) : List Char :=
  let ps := words value
  let text? :=
    match lowered property with
    | "src" => ((commaParts ps).mapM fun (part : List Piece) => (part.mapM sourceWord?).map List.flatten).map withCommas
    | "font-family" => families? ps
    | "font-weight" => sidesUpTo? 2 weight? ps
    | "font-stretch" => sidesUpTo? 2 stretch? ps
    | "unicode-range" => ranges? ps
    | "font-style" => listText? ⟨false, false⟩ ps
    | _ => none
  if ps.isEmpty then plainText value else text?.getD (plainText value)

end LiterateSite.Style
