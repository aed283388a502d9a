import LiterateSite.Style.Background
import LiterateSite.Style.Box
import LiterateSite.Style.Change
import LiterateSite.Style.Font
import LiterateSite.Style.Line

/-!
# Values of properties

The shortest text of a value that a property knows.

* `reader?`: how a property reads its values, if it is known.
* `typed?`: a value in its shortest form, if its property is known and takes it.
* `valueText`: a value in its shortest form.
-/

namespace LiterateSite.Style

/-- Properties whose value is a colour. -/
def colorProperties : List String :=
  ["color", "background-color", "border-top-color", "border-right-color", "border-bottom-color",
    "border-left-color", "border-block-start-color", "border-block-end-color",
    "border-inline-start-color", "border-inline-end-color", "outline-color", "text-decoration-color",
    "text-emphasis-color", "caret-color", "accent-color", "fill", "stroke"]

/-- Properties with a value for each side. -/
def sideProperties : List String :=
  ["margin", "padding", "inset", "scroll-margin", "scroll-padding", "border-width", "border-style"]

/-- Properties with one or two values. -/
def pairProperties : List String :=
  ["margin-block", "margin-inline", "padding-block", "padding-inline", "inset-block", "inset-inline",
    "scroll-margin-block", "scroll-margin-inline", "scroll-padding-block", "scroll-padding-inline",
    "border-block-width", "border-inline-width", "border-block-style", "border-inline-style",
    "border-spacing", "gap", "overflow", "border-top-left-radius", "border-top-right-radius",
    "border-bottom-left-radius", "border-bottom-right-radius", "border-start-start-radius",
    "border-start-end-radius", "border-end-start-radius", "border-end-end-radius"]

/-- Properties that describe a line. -/
def lineProperties : List String :=
  ["border", "border-top", "border-right", "border-bottom", "border-left", "border-block",
    "border-block-start", "border-block-end", "border-inline", "border-inline-start",
    "border-inline-end", "outline"]

/-- Properties whose names are kept as they are written. -/
def namedProperties : List String :=
  ["animation-name", "transition-property", "grid-template", "grid-template-columns",
    "grid-template-rows", "grid-area", "grid-row", "grid-column", "grid-row-start", "grid-row-end",
    "grid-column-start", "grid-column-end", "grid", "container", "container-name",
    "view-transition-name", "font-palette", "list-style-type", "composes"]

/-- Properties whose words need no care. -/
def plainProperties : List String :=
  ["background-attachment", "background-clip", "background-origin", "visibility", "width", "height",
    "min-width", "min-height", "max-width", "max-height", "block-size", "inline-size",
    "min-block-size", "min-inline-size", "max-block-size", "max-inline-size", "box-sizing",
    "overflow-x", "overflow-y", "text-overflow", "position", "top", "bottom", "left", "right",
    "inset-block-start", "inset-block-end", "inset-inline-start", "inset-inline-end", "display",
    "border-top-style", "border-right-style", "border-bottom-style", "border-left-style",
    "border-top-width", "border-right-width", "border-bottom-width", "border-left-width",
    "border-block-start-style", "border-block-end-style", "border-inline-start-style",
    "border-inline-end-style", "border-block-start-width", "border-block-end-width",
    "border-inline-start-width", "border-inline-end-width", "border-image", "border-image-source",
    "border-image-outset", "border-image-repeat", "border-image-width", "border-image-slice",
    "outline-style", "outline-width", "flex-direction", "flex-wrap", "flex-grow", "flex-shrink",
    "flex-basis", "order", "align-content", "justify-content", "align-self", "justify-self",
    "align-items", "justify-items", "row-gap", "column-gap", "grid-auto-columns", "grid-auto-rows",
    "grid-auto-flow", "margin-top", "margin-right", "margin-bottom", "margin-left",
    "margin-block-start", "margin-block-end", "margin-inline-start", "margin-inline-end",
    "padding-top", "padding-right", "padding-bottom", "padding-left", "padding-block-start",
    "padding-block-end", "padding-inline-start", "padding-inline-end", "scroll-margin-top",
    "scroll-margin-right", "scroll-margin-bottom", "scroll-margin-left", "scroll-padding-top",
    "scroll-padding-right", "scroll-padding-bottom", "scroll-padding-left", "font-size", "font-style",
    "font-variant-caps", "line-height", "vertical-align", "transition-duration", "transition-delay",
    "animation-duration", "animation-iteration-count", "animation-direction",
    "animation-play-state", "animation-delay", "animation-fill-mode", "animation-composition",
    "transform-origin", "transform-style", "transform-box", "backface-visibility", "perspective",
    "perspective-origin", "translate", "rotate", "scale", "text-transform", "white-space", "tab-size",
    "word-break", "line-break", "hyphens", "overflow-wrap", "word-wrap", "text-align",
    "text-align-last", "text-justify", "word-spacing", "letter-spacing", "text-indent",
    "text-decoration-line", "text-decoration-style", "text-decoration-thickness",
    "text-decoration-skip-ink", "text-emphasis-style", "text-emphasis-position", "text-size-adjust",
    "direction", "unicode-bidi", "box-decoration-break", "resize", "cursor", "caret-shape",
    "user-select", "appearance", "list-style-image", "list-style-position", "marker-side",
    "fill-rule", "stroke-width", "stroke-linecap", "stroke-linejoin", "stroke-miterlimit",
    "stroke-dasharray", "stroke-dashoffset", "clip-path", "clip-rule", "z-index", "container-type",
    "color-scheme", "print-color-adjust", "text-rendering", "shape-rendering", "image-rendering",
    "color-rendering", "mask-image", "mask-mode", "mask-repeat", "mask-position", "mask-clip",
    "mask-origin", "mask-size", "mask-composite", "mask-type"]

/-- Properties of several values at once, or with words of their own, and how they are read. -/
def ownProperties : List (String × (List Piece → Option (List Char))) :=
  [("border-color", sidesUpTo? 4 colorText?), ("border-block-color", sidesUpTo? 2 colorText?),
    ("border-inline-color", sidesUpTo? 2 colorText?), ("border-radius", corners?),
    ("box-shadow", shadows?), ("text-shadow", shadows?), ("text-decoration", decoration?),
    ("list-style", listStyle?), ("flex", flex?), ("flex-flow", flexFlow?), ("aspect-ratio", ratio?),
    ("grid-template-areas", areas?),
    ("place-content", sidesUpTo? 2 (word? ⟨false, false⟩)),
    ("place-items", sidesUpTo? 2 (word? ⟨false, false⟩)),
    ("place-self", sidesUpTo? 2 (word? ⟨false, false⟩)),
    ("transition", fun ps => ((commaParts ps).mapM transition?).map withCommas),
    ("animation", fun ps => ((commaParts ps).mapM animation?).map withCommas),
    ("transition-timing-function", fun ps =>
      ((commaParts ps).mapM (sidesUpTo? 1 easing?)).map withCommas),
    ("animation-timing-function", fun ps =>
      ((commaParts ps).mapM (sidesUpTo? 1 easing?)).map withCommas),
    ("transform", functions? moves?), ("filter", functions? filter?),
    ("backdrop-filter", functions? filter?), ("font-family", families?), ("font", font?),
    ("font-weight", sidesUpTo? 1 weight?), ("font-stretch", sidesUpTo? 1 stretch?),
    ("background", backgrounds?),
    ("background-image", fun ps =>
      ((commaParts ps).mapM (sidesUpTo? 1 fun p => (keyword? ["none"] p).or (image? p))).map withCommas),
    ("background-position", fun ps => ((commaParts ps).mapM position?).map withCommas),
    ("background-size", fun ps => ((commaParts ps).mapM size?).map withCommas),
    ("background-repeat", fun ps => ((commaParts ps).mapM repeat?).map withCommas)]
    ++ ["opacity", "fill-opacity", "stroke-opacity"].map fun name =>
      (name, sidesUpTo? 1 fun
        | .token (.number digits ['%']) => some ((Amount.read digits).shift (-2)).text
        | p => (number? p).map Amount.text)

/-- A property without the mark of a maker before its name. -/
def withoutMaker (property : String) : String :=
  match property.toList with
  | '-' :: rest =>
    let maker := rest.takeWhile (· != '-')
    if ["webkit", "moz", "ms", "o"].contains (String.ofList maker) then
      String.ofList (rest.drop (maker.length + 1))
    else property
  | _ => property

/-- How a property reads its values, if it is known. -/
def reader? (property : String) : Option (List Piece → Option (List Char)) :=
  let name := withoutMaker property
  match ownProperties.lookup name with
  | some read => some read
  | none =>
    if colorProperties.contains name then
      some (sidesUpTo? 1 fun p => (colorText? p).or (keyword? ["auto", "none"] p))
    else if sideProperties.contains name then some (sidesUpTo? 4 side?)
    else if pairProperties.contains name then some (sidesUpTo? 2 side?)
    else if lineProperties.contains name then some border?
    else if namedProperties.contains name then some (listText? ⟨false, true⟩)
    else if plainProperties.contains name then some (listText? ⟨false, false⟩)
    else none

/-- The value hangs on a variable somewhere. -/
def hasVariable : Nat → List Piece → Bool
  | 0, _ => false
  | fuel + 1, ps => ps.any fun
    | .call name inside => name == "var".toList || name == "env".toList || hasVariable fuel inside
    | .bracket _ inside => hasVariable fuel inside
    | .token _ => false

/-- A value in its shortest form, if its property is known and takes it. -/
def typed? (property : String) (value : List Piece) : Option (List Char) :=
  let ps := words value
  let isWide :=
    match ps with
    | [.token (.ident name)] => wideWords.contains (lowered name)
    | _ => false
  if ps.isEmpty || isWide || hasVariable (Piece.sizes ps + 1) ps then none
  else (reader? property).bind fun read => read ps

/-- A value in its shortest form. -/
def valueText (property : List Char) (value : List Piece) : List Char :=
  (typed? (lowered property) value).getD (plainText value)

end LiterateSite.Style
