import LiterateSite.Style.Side

/-!
# Boxes in rows and grids

* `flex?`, `flexFlow?`: boxes that grow and shrink in a row.
* `ratio?`: the ratio of the sides of a box.
* `areas?`: the areas of a grid.
-/

namespace LiterateSite.Style

/-- How a box grows, shrinks and begins. -/
def flex? (ps : List Piece) : Option (List Char) :=
  let write := fun (grow shrink : Amount) (basis : List Char) =>
    let one := fun (a : Amount) => a.text == ['1']
    if basis == "auto".toList && one grow && one shrink then basis
    else if basis == "auto".toList && grow.isZero && shrink.isZero then "none".toList
    else
      let zero := basis == ['0']
      let zeroShare := basis == ['0', '%']
      let ratio :=
        if !one grow || !one shrink || zero || zeroShare then
          grow.text :: if !one shrink || zero then [shrink.text] else []
        else []
      withBlanks (ratio ++ if zeroShare then [] else [basis])
  let one : Amount := { negative := false, digits := 1, power := 0 }
  let basis? := fun (p : Piece) =>
    match p with
    | .token (.ident name) => some (lower name)
    | p => length? p
  match ps with
  | [p] =>
    match number? p, keyword? ["none"] p with
    | some grow, _ => some (write grow one ['0', '%'])
    | none, some text => some text
    | none, none => (basis? p).map (write one one)
  | [p, q] =>
    match number? p, number? q with
    | some grow, some shrink => some (write grow shrink ['0', '%'])
    | some grow, none => (basis? q).map (write grow one)
    | none, some grow => (basis? p).map (write grow one)
    | none, none => none
  | [p, q, r] =>
    match number? p, number? q with
    | some grow, some shrink => (basis? r).map (write grow shrink)
    | none, some grow => (number? r).bind fun shrink => (basis? p).map (write grow shrink)
    | _, none => none
  | _ => none

/-- The direction of a row of boxes and whether it wraps. -/
def flexFlow? (ps : List Piece) : Option (List Char) :=
  let slots : List Slot :=
    [⟨keyword? ["row", "row-reverse", "column", "column-reverse"], "row".toList⟩,
      ⟨keyword? ["nowrap", "wrap", "wrap-reverse"], "nowrap".toList⟩]
  (fill? slots ps).map fun texts => unusual slots texts "row".toList

/-- Two numbers with a slash; a second one of one says nothing. -/
def ratio? (ps : List Piece) : Option (List Char) :=
  let (auto, rest) := ps.partition fun p => (keyword? ["auto"] p).isSome
  let auto := auto.map fun _ => "auto".toList
  let ratio :=
    match rest with
    | [] => some []
    | [p] => (number? p).map fun (a : Amount) => [a.text]
    | [p, slash, q] =>
      if slash.isMark '/' then do
        let a ← number? p
        let b ← number? q
        return [if b.text == ['1'] then a.text else a.text ++ '/' :: b.text]
      else none
    | _ => none
  if ps.isEmpty then none else ratio.map fun ratio => withBlanks (auto ++ ratio)

/-- Rows of named areas. -/
def areas? (ps : List Piece) : Option (List Char) :=
  match ps with
  | [.token (.ident name)] => some (lower name)
  | ps =>
    (ps.mapM fun (p : Piece) =>
      match p with
      | .token (.string content) =>
        some (stringText (withBlanks ((content.splitOn ' ').filter fun w => !w.isEmpty)))
      | _ => none).map List.flatten

end LiterateSite.Style
