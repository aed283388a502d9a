import LiterateSite.Style.Color
import LiterateSite.Style.Piece

/-!
# Plain values

The text of values of which nothing is known but their tokens, as custom properties have them.

* `numberText`: a number with its unit in its shortest form.
* `Piece.color?`: the colour of a piece.
* `plainText`: pieces with the blanks that they need.
-/

namespace LiterateSite.Style

/-- Units of length. -/
def lengthUnits : List String :=
  ["px", "em", "rem", "ex", "rex", "ch", "rch", "cap", "rcap", "ic", "ric", "lh", "rlh", "vw", "lvw",
    "svw", "dvw", "cqw", "vh", "lvh", "svh", "dvh", "cqh", "vi", "svi", "lvi", "dvi", "cqi", "vb",
    "svb", "lvb", "dvb", "cqb", "vmin", "svmin", "lvmin", "dvmin", "cqmin", "vmax", "svmax", "lvmax",
    "dvmax", "cqmax", "cm", "mm", "in", "pt", "pc", "q"]

/-- The unit is one of length. -/
def isLengthUnit (unit : List Char) : Bool := lengthUnits.contains (String.ofList (lower unit))

/-- A time in the shorter of its two units. -/
def timeText (a : Amount) (inSeconds : Bool) : List Char :=
  let seconds := if inSeconds then a else a.shift (-3)
  let some? := !seconds.isZero && !seconds.negative
  let short := seconds.lt { negative := false, digits := 1, power := -1 }
  if some? && short then (seconds.shift 3).text ++ ['m', 's'] else seconds.text ++ ['s']

/-- A share with its sign as it was written. -/
def shareText (digits : List Char) : List Char :=
  let sign := (digits.take 1).filter fun c => c == '+' || c == '-'
  let body := digits.drop sign.length
  let text := (Amount.read body).text
  let text := if text.head? == some '.' then '0' :: text else text
  sign ++ text ++ (if body.contains '.' && !text.contains '.' then ['.', '0'] else []) ++ ['%']

/-- A number with its unit in its shortest form. Zero keeps its unit. -/
def numberText (digits unit : List Char) : List Char :=
  let a := Amount.read digits
  let small := lower unit
  if small == ['s'] then timeText a true
  else if small == ['m', 's'] then timeText a false
  else if isLengthUnit unit || ["deg", "grad", "rad", "turn", "dpi", "dpcm"].contains (String.ofList small)
  then a.text ++ small
  else if small == "dppx".toList || small == ['x'] then a.text ++ ['x']
  else a.text ++ unit

/-- The amounts of the arguments of a function, without the marks between them. -/
def amounts? (inside : List Piece) : Option (List (Amount × String)) :=
  ((words inside).filter fun p => !(p.isMark ',' || p.isMark '/')).mapM fun
    | .token (.number digits unit) => some (Amount.read digits, String.ofList (lower unit))
    | _ => none

/-- The colour that digits or a function give. -/
def Piece.color? : Piece → Option Color
  | .token (.hash name) => Color.ofHash? name
  | .call name inside =>
    (amounts? inside).bind (Color.ofFunction? (String.ofList (lower name)))
  | _ => none

/-- A mark beside which no blank is needed. -/
def Piece.isTight : Piece → Bool
  | .token (.mark c) => !(c == ':' || c == ';' || c == ',')
  | _ => false

/-- The pieces without the blanks that they do not need: before a comma, and on both sides of a
mark or after a bracket. `tight` tells that the last piece needs none. -/
def dropNeedless : Bool → List Piece → List Piece
  | _, [] => []
  | tight, .token .blank :: rest =>
    let needless := rest.head?.any fun p => p.isTight || p.isMark ',' || p.isBlank
    if tight || needless then dropNeedless tight rest
    else .token .blank :: dropNeedless false rest
  | _, p :: rest =>
    let tight :=
      match p with
      | .call .. | .bracket .. => p.color?.isNone
      | p => p.isTight
    p :: dropNeedless tight rest

/-- Pieces without blanks at their ends; one piece alone is kept. -/
def trimList (ps : List Piece) : List Piece :=
  let ps := dropNeedless false ps
  if ps.length < 2 then ps
  else
    let ps := if ps.head?.any Piece.isBlank then ps.drop 1 else ps
    if ps.getLast?.any Piece.isBlank then ps.dropLast else ps

mutual

/-- A piece as it stands in a plain value. -/
def plainPiece : Nat → Piece → List Char
  | 0, _ => []
  | _, .token (.number digits ['%']) => shareText digits
  | _, .token (.number digits unit) => numberText digits unit
  | _, .token (.mark c) => if c == '+' || c == '-' then [' ', c, ' '] else [c]
  | fuel + 1, p =>
    match p.color? with
    | some color => color.shortest
    | none =>
      match p with
      | .token t => t.text
      | .bracket c inside =>
        c :: plainPieces fuel (dropNeedless false inside) ++ (closing? c).toList
      | .call name inside =>
        let name' := String.ofList name
        match name', words inside with
        | "url", [.token (.string address)] => urlText address
        | _, _ =>
          let body :=
            if name' == "var" || name' == "env" then
              match commaParts inside with
              | first :: second :: rest =>
                let spare := trimList ((second :: rest).intersperse [.token (.mark ',')]).flatten
                plainPieces fuel (trimList first) ++ ',' :: plainPieces fuel spare
              | _ => plainPieces fuel (trimList inside)
            else plainPieces fuel (trimList inside)
          nameText name ++ '(' :: body ++ [')']

/-- Pieces as they stand in a plain value. -/
def plainPieces : Nat → List Piece → List Char
  | 0, _ => []
  | _, [] => []
  | fuel + 1, p :: rest => plainPiece fuel p ++ plainPieces fuel rest

end

/-- A plain value in its shortest form. -/
def plainText (ps : List Piece) : List Char :=
  let ps := trimList ps
  plainPieces (2 * Piece.sizes ps + 2) ps

end LiterateSite.Style
