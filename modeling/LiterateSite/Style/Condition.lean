import LiterateSite.Style.Value

/-!
# Conditions

Under which media, in which containers and with which features of a browser rules apply.

* `mediaText?`: a list of media in its shortest form.
* `containerText?`, `supportsText?`: conditions on containers and on browsers.
-/

namespace LiterateSite.Style

/-- The piece is a word. -/
def isWord (word : String) : Piece → Bool
  | .token (.ident name) => lowered name == word
  | _ => false

/-- What is asked of one feature: that it is there, that it has a value, or that values compare. A
least or largest value is written as a comparison. -/
def feature? (inside : List Piece) : Option (List Char) :=
  let isOperator := fun (p : Piece) => p.isMark '<' || p.isMark '>' || p.isMark '='
  match words inside with
  | [.token (.ident name)] => some (lower name)
  | .token (.ident name) :: rest =>
    let name := lower name
    match rest with
    | .token (.mark ':') :: value =>
      if value.isEmpty then none
      else
        (listText? ⟨false, false⟩ value).map fun value =>
          if "max-".toList.isPrefixOf name then name.drop 4 ++ '<' :: '=' :: value
          else if "min-".toList.isPrefixOf name then name.drop 4 ++ '>' :: '=' :: value
          else name ++ ':' :: value
    | _ => compared? (words inside) isOperator
  | ps => compared? ps isOperator
where
  /-- Values and the operators that compare them. -/
  compared? (ps : List Piece) (isOperator : Piece → Bool) : Option (List Char) :=
    let values := (splitWhere isOperator ps).filter fun part => !part.isEmpty
    if values.length < 2 || !(ps.any isOperator) then none
    else
      (ps.mapM fun p => if isOperator p then
          match p with
          | .token t => some t.text
          | _ => none
        else word? ⟨false, false⟩ p).map List.flatten

/-- A condition in brackets, without them; `leaf` writes what is asked of one feature. -/
def conditionFrom? (leaf : List Piece → Option (List Char)) : Nat → List Piece → Option (List Char)
  | 0, _ => none
  | fuel + 1, ps =>
    let one? : Piece → Option (List Char)
      | .bracket '(' inside =>
        (match words inside with
          | .bracket .. :: _ => conditionFrom? leaf fuel inside
          | first :: _ => if isWord "not" first then conditionFrom? leaf fuel inside else leaf inside
          | [] => none).map fun text => '(' :: text ++ [')']
      | .call name inside => some (nameText name ++ '(' :: plainText inside ++ [')'])
      | _ => none
    let more? := fun (word : String) (ps : List Piece) =>
      (ps.splitAt 1).1.all (isWord word) && ps.length % 2 == 0
    match words ps with
    | [p] => one? p
    | [no, p] => if isWord "not" no then (one? p).map ("not ".toList ++ ·) else none
    | p :: rest =>
      let word := if rest.head?.any (isWord "or") then "or" else "and"
      if !more? word rest then none
      else do
        let first ← one? p
        let others ← (pairs rest).mapM fun (joint, q) => if isWord word joint then one? q else none
        return first ++ others.flatMap fun text => ' ' :: word.toList ++ ' ' :: text
    | [] => none
where
  /-- Pieces two by two. -/
  pairs : List Piece → List (Piece × Piece)
    | p :: q :: rest => (p, q) :: pairs rest
    | _ => []

/-- A condition on features. -/
def conditionText? (leaf : List Piece → Option (List Char)) (ps : List Piece) : Option (List Char) :=
  conditionFrom? leaf (Piece.sizes ps + 1) ps

/-- One medium with the features that it has to have. -/
def medium? (ps : List Piece) : Option (List Char) :=
  let typed := fun (qualifier : List Char) (type : List Char) (rest : List Piece) =>
    let type := lower type
    if ["and", "or", "not", "only", "layer"].contains (String.ofList type) then none
    else
      match rest with
      | [] => some (qualifier ++ type)
      | joint :: rest =>
        if isWord "and" joint && !rest.any (isWord "or") then
          (conditionText? feature? rest).map fun condition =>
            if qualifier.isEmpty && type == "all".toList then condition
            else qualifier ++ type ++ " and ".toList ++ condition
        else none
  match words ps with
  | .token (.ident first) :: .token (.ident type) :: rest =>
    if lowered first == "not" || lowered first == "only" then typed (lower first ++ [' ']) type rest
    else typed [] first (.token (.ident type) :: rest)
  | .token (.ident type) :: rest =>
    if lowered type == "not" then conditionText? feature? ps else typed [] type rest
  | _ => conditionText? feature? ps

/-- A list of media in its shortest form. -/
def mediaText? (ps : List Piece) : Option (List Char) :=
  if (words ps).isEmpty then some []
  else ((commaParts ps).mapM medium?).map fun texts => (texts.intersperse [',']).flatten

/-- The rules apply to all media. -/
def isEverywhere (media : List Char) : Bool := media.isEmpty || media == "all".toList

/-- A container by its name, with the features that it has to have. -/
def containerText? (ps : List Piece) : Option (List Char) :=
  match words ps with
  | .token (.ident name) :: rest =>
    if lowered name == "not" then conditionText? feature? ps
    else if rest.isEmpty then some (nameText name)
    else (conditionText? feature? rest).map fun text => nameText name ++ ' ' :: text
  | _ => conditionText? feature? ps

/-- A declaration that a browser has to know. -/
def knownDeclaration? (inside : List Piece) : Option (List Char) :=
  match words inside with
  | .token (.ident property) :: .token (.mark ':') :: _ =>
    let value := ((inside.dropWhile fun p => !p.isMark ':').drop 1)
    some (nameText property ++ ':' :: plainText (trimBlank value))
  | _ => none

/-- A condition on what a browser knows. -/
def supportsText? (ps : List Piece) : Option (List Char) := conditionText? knownDeclaration? ps

end LiterateSite.Style
