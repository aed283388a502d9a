import LiterateSite.Style.Side

/-!
# Changes and moves

* `transition?`, `animation?`: changes in time, without what is usual.
* `moves?`, `filter?`: functions that move a box or filter its picture.
-/

namespace LiterateSite.Style

/-- A change of a property. -/
def transition? (ps : List Piece) : Option (List Char) :=
  let slots : List Slot :=
    [⟨time?, "0s".toList⟩, ⟨easing?, "ease".toList⟩, ⟨time?, "0s".toList⟩,
      ⟨fun
        | .token (.ident name) => some (nameText name)
        | _ => none, "all".toList⟩]
  match fill? slots ps with
  | some [duration, easing, delay, property] =>
    let still := duration == "0s".toList && delay == "0s".toList
    some (withBlanks (property :: (if still then [] else [duration])
      ++ (if easing == "ease".toList then [] else [easing])
      ++ if delay == "0s".toList then [] else [delay]))
  | _ => none

/-- A run of key frames. -/
def animation? (ps : List Piece) : Option (List Char) :=
  let count? := fun (p : Piece) => (keyword? ["infinite"] p).or ((number? p).map Amount.text)
  let slots : List Slot :=
    [⟨time?, "0s".toList⟩, ⟨easing?, "ease".toList⟩, ⟨time?, "0s".toList⟩, ⟨count?, ['1']⟩,
      ⟨keyword? ["normal", "reverse", "alternate", "alternate-reverse"], "normal".toList⟩,
      ⟨keyword? ["none", "forwards", "backwards", "both"], "none".toList⟩,
      ⟨keyword? ["running", "paused"], "running".toList⟩,
      ⟨fun
        | .token (.ident name) => some (nameText name)
        | .token (.string content) => some (nameText content)
        | _ => none, "none".toList⟩]
  match fill? slots ps with
  | some [duration, easing, delay, count, direction, mode, state, name] =>
    if name == "none".toList then some name
    else
      let still := duration == "0s".toList && delay == "0s".toList
      let put := fun (text usual : String) => if text == usual then [] else [text.toList]
      some (withBlanks ((if still then [] else [duration])
        ++ put (String.ofList easing) "ease" ++ put (String.ofList delay) "0s"
        ++ put (String.ofList count) "1" ++ put (String.ofList direction) "normal"
        ++ put (String.ofList mode) "none" ++ put (String.ofList state) "running" ++ [name]))
  | _ => none

/-- The functions that move a box. -/
def moveNames : List String :=
  ["translateX", "translateY", "translateZ", "scaleX", "scaleY", "scaleZ", "rotateX", "rotateY",
    "skewX", "skewY"]

/-- The name of a function and its arguments without the ones that say nothing. -/
def moves? (p : Piece) : Option (List Char) :=
  match p with
  | .call name inside =>
    let arguments? := ((commaParts inside).mapM fun part =>
      match words part with
      | [.token (.number digits unit)] =>
        let a := Amount.read digits
        if a.isZero && unit != ['%'] then some ['0'] else some (numberText digits unit)
      | [p] => word? ⟨false, false⟩ p
      | _ => none)
    arguments?.map fun arguments =>
      let (function, arguments) :=
        match lowered name, arguments with
        | "translate", [x, ['0']] => ("translate", [x])
        | "translate", [['0'], y] => ("translateY", [y])
        | "translate3d", [x, ['0'], ['0']] => ("translateX", [x])
        | "translate3d", [['0'], y, ['0']] => ("translateY", [y])
        | "translate3d", [['0'], ['0'], z] => ("translateZ", [z])
        | "translate3d", [x, y, ['0']] => ("translate", [x, y])
        | "scale", [x, y] =>
          if x == y then ("scale", [x])
          else if x == ['1'] then ("scaleY", [y])
          else if y == ['1'] then ("scaleX", [x])
          else ("scale", [x, y])
        | "rotatez", [a] => ("rotate", [a])
        | small, arguments =>
          ((moveNames.find? fun (known : String) => lowered known.toList == small).getD small, arguments)
      function.toList ++ '(' :: withCommas arguments ++ [')']
  | _ => none

/-- Functions without blanks between them, or no function. -/
def functions? (read : Piece → Option (List Char)) (ps : List Piece) : Option (List Char) :=
  match ps with
  | [p] => (keyword? ["none"] p).or (read p)
  | ps => (ps.mapM read).map List.flatten

/-- A function of a filter. -/
def filter? : Piece → Option (List Char)
  | .call name inside =>
    (listText? ⟨true, false⟩ inside).map fun text =>
      let text := if lowered name == "blur" && text == ['0'] then [] else text
      nameText name ++ '(' :: text ++ [')']
  | .token (.url address) => some (urlText address)
  | _ => none

end LiterateSite.Style
