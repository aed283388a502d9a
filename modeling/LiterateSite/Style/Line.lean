import LiterateSite.Style.Side

/-!
# Lines and shadows

* `border?`: the width, style and colour of a line.
* `shadows?`: shadows of boxes and texts.
* `decoration?`, `listStyle?`: lines beside texts and marks of lists.
-/

namespace LiterateSite.Style

def lineStyles : List String :=
  ["none", "hidden", "inset", "groove", "outset", "ridge", "dotted", "dashed", "solid", "double"]

/-- The width of a line. -/
def lineWidth? (p : Piece) : Option (List Char) :=
  (keyword? ["thin", "medium", "thick"] p).or
    (match p with
      | .token (.number _ ['%']) => none
      | p => length? p)

/-- The width, style and colour of a line. -/
def border? (ps : List Piece) : Option (List Char) :=
  let slots : List Slot :=
    [⟨lineWidth?, "medium".toList⟩, ⟨keyword? ("auto" :: lineStyles), "none".toList⟩,
      ⟨colorText?, "currentColor".toList⟩]
  (fill? slots ps).map fun texts => unusual slots texts "none".toList

/-- The offsets, blur, spread and colour of a shadow. -/
def shadow? (ps : List Piece) : Option (List Char) :=
  let inner := ps.filter fun p => (keyword? ["inset"] p).isSome
  let colors := ps.filterMap colorText?
  let lengths := (ps.filter fun p => (keyword? ["inset"] p).isNone && (colorText? p).isNone).mapM length?
  match lengths with
  | some (x :: y :: more) =>
    if more.length > 2 || colors.length > 1 then none
    else
      let more :=
        match more with
        | [blur, spread] =>
          if spread == ['0'] then (if blur == ['0'] then [] else [blur]) else [blur, spread]
        | [blur] => if blur == ['0'] then [] else [blur]
        | more => more
      let color := colors.filter (· != "currentColor".toList)
      some (withBlanks ((if inner.isEmpty then [] else ["inset".toList]) ++ x :: y :: more ++ color))
  | _ => none

/-- Shadows with commas between them. -/
def shadows? (ps : List Piece) : Option (List Char) :=
  match ps with
  | [p] => keyword? ["none"] p
  | ps => ((commaParts ps).mapM shadow?).map withCommas

/-- The lines beside a text, how they are drawn and in which colour. -/
def decoration? (ps : List Piece) : Option (List Char) :=
  let lines := ["underline", "overline", "line-through", "blink"]
  let isLine := fun p => (keyword? lines p).isSome
  let drawn := lines.filter fun line => ps.any fun p => (keyword? [line] p).isSome
  let rest := ps.filter fun p => !isLine p
  let slots : List Slot :=
    [⟨fun p => (keyword? ["auto", "from-font"] p).or (length? p), "auto".toList⟩,
      ⟨keyword? ["solid", "double", "dotted", "dashed", "wavy"], "solid".toList⟩,
      ⟨colorText?, "currentColor".toList⟩]
  if drawn.isEmpty then
    match rest with
    | [p] => keyword? ["none"] p
    | _ => none
  else if rest.isEmpty then some (withBlanks (drawn.map String.toList))
  else
    (fill? slots rest).map fun texts =>
      let more := unusual slots texts []
      withBlanks (drawn.map String.toList ++ if more.isEmpty then [] else [more])

/-- The mark, picture and place of the entries of a list. -/
def listStyle? (ps : List Piece) : Option (List Char) :=
  let slots : List Slot :=
    [⟨keyword? ["inside", "outside"], "outside".toList⟩, ⟨image?, "none".toList⟩,
      ⟨fun
        | .token (.ident name) => some name
        | .token (.string content) => some (stringText content)
        | _ => none, "disc".toList⟩]
  (fill? slots ps).map fun texts => unusual slots texts "outside".toList

end LiterateSite.Style
