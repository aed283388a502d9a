import LiterateSite.Style.Side

/-!
# Backgrounds

* `position?`, `repeat?`, `size?`: where, how often and how large a picture is.
* `backgrounds?`: layers of colours and pictures, without what is usual.
-/

namespace LiterateSite.Style

/-- A place in a box: the text of its share across, or down. -/
structure Place where
  /-- The edge, if the place is named by it. -/
  edge : Option String := none
  text : List Char

/-- The word of a place. -/
def place : Piece → Option Place
  | .token (.ident name) =>
    match lowered name with
    | "left" => some ⟨some "left", ['0']⟩
    | "right" => some ⟨some "right", "100%".toList⟩
    | "top" => some ⟨some "top", ['0']⟩
    | "bottom" => some ⟨some "bottom", "100%".toList⟩
    | "center" => some ⟨some "center", "50%".toList⟩
    | _ => none
  | p => (length? p).map fun text => ⟨none, if text == "0%".toList then ['0'] else text⟩

/-- A place by its shares across and down. -/
def position? (ps : List Piece) : Option (List Char) :=
  let down := fun (p : Place) => p.edge == some "top" || p.edge == some "bottom"
  let across := fun (p : Place) => p.edge == some "left" || p.edge == some "right"
  let write := fun (x y : Place) =>
    if y.text == "50%".toList then x.text
    else if x.edge == some "center" && down y then (y.edge.getD "").toList
    else x.text ++ ' ' :: y.text
  let center : Place := ⟨some "center", "50%".toList⟩
  match ps.mapM place with
  | some [p] => some (if down p then write center p else write p center)
  | some [p, q] =>
    if down p && down q || across p && across q then none
    else some (if down p || across q then write q p else write p q)
  | _ => none

/-- How often a picture is repeated across and down. -/
def repeat? (ps : List Piece) : Option (List Char) :=
  match ps with
  | [p] => keyword? ["repeat-x", "repeat-y", "repeat", "no-repeat", "space", "round"] p
  | [p, q] => do
    let x ← keyword? ["repeat", "no-repeat", "space", "round"] p
    let y ← keyword? ["repeat", "no-repeat", "space", "round"] q
    return if x == y then x
      else if x == "repeat".toList && y == "no-repeat".toList then "repeat-x".toList
      else if x == "no-repeat".toList && y == "repeat".toList then "repeat-y".toList
      else x ++ ' ' :: y
  | _ => none

/-- How large a picture is. -/
def size? (ps : List Piece) : Option (List Char) :=
  match ps with
  | [p] => (keyword? ["auto", "cover", "contain"] p).or (length? p)
  | [p, q] => do
    let x ← (keyword? ["auto"] p).or (length? p)
    let y ← (keyword? ["auto"] q).or (length? q)
    return if y == "auto".toList then x else x ++ ' ' :: y
  | _ => none

/-- One layer of a background. -/
def background? (ps : List Piece) : Option (List Char) :=
  let isSlash := Piece.isMark '/'
  let isPlace := fun p => (place p).isSome
  let isSize := fun p => (keyword? ["auto", "cover", "contain"] p).isSome || (length? p).isSome
  let isRepeat := fun p => (repeat? [p]).isSome
  let boxes := ["padding-box", "border-box", "content-box", "text"]
  let before := ps.takeWhile fun p => !isSlash p
  let after := (ps.drop before.length).drop 1
  let sizes := after.takeWhile isSize
  let others := before.filter (fun p => !isPlace p) ++ after.drop sizes.length
  let places := before.filter isPlace
  let repeats := others.filter isRepeat
  let box := others.filterMap (keyword? boxes)
  let rest := others.filter fun p => !isRepeat p && (keyword? boxes p).isNone
  let slots : List Slot :=
    [⟨colorText?, "#0000".toList⟩, ⟨fun p => (keyword? ["none"] p).or (image? p), "none".toList⟩,
      ⟨keyword? ["scroll", "fixed", "local"], "scroll".toList⟩]
  do
    let position ← if places.isEmpty then some "0 0".toList else position? places
    let size ← if sizes.isEmpty then some "auto".toList else size? sizes
    let repeats ← if repeats.isEmpty then some "repeat".toList else repeat? repeats
    let texts ← if rest.isEmpty then some (slots.map Slot.usual) else fill? slots rest
    let (origin, clip) ←
      match box with
      | [] => some ("padding-box".toList, "border-box".toList)
      | [both] => some (both, both)
      | [origin, clip] => some (origin, clip)
      | _ => none
    let where? :=
      if size != "auto".toList then [position ++ '/' :: size]
      else if position != "0 0".toList then [position]
      else []
    let put := fun (text : List Char) (usual : String) => if text == usual.toList then [] else [text]
    let showOrigin := origin != "padding-box".toList
    let all := put (texts[0]?.getD []) "#0000" ++ put (texts[1]?.getD []) "none" ++ where?
      ++ put repeats "repeat" ++ put (texts[2]?.getD []) "scroll"
      ++ (if showOrigin then [origin] else [])
      ++ if clip != "border-box".toList && !(showOrigin && clip == origin) then [clip] else []
    return if all.isEmpty then "0 0".toList else withBlanks all

def backgrounds? (ps : List Piece) : Option (List Char) := ((commaParts ps).mapM background?).map withCommas

end LiterateSite.Style
