import LiterateSite.Style.Token

/-!
# Tokens in brackets

* `Piece`: a token, or brackets with what stands in them.
* `pieces?`: the pieces of a text, if its brackets match. The end of the text closes all brackets.
* `words`, `splitWhere`: pieces without blanks, and what stands between marks.
-/

namespace LiterateSite.Style

/-- A token, or brackets with what stands in them. -/
inductive Piece where
  | token (t : Token)
  /-- A function and its arguments. -/
  | call (function : List Char) (inside : List Piece)
  | bracket (opening : Char) (inside : List Piece)
  deriving Repr, Inhabited

/-- The bracket that closes another one. -/
def closing? : Char → Option Char
  | '(' => some ')'
  | '[' => some ']'
  | '\x7b' => some '\x7d'
  | _ => none

/-- The pieces up to a bracket that closes them, and the tokens after it; `fuel` is more than the
number of tokens. -/
def piecesFrom? : Nat → Option Char → List Token → Option (List Piece × List Token)
  | 0, _, _ => none
  | _ + 1, _, [] => some ([], [])
  | fuel + 1, closing, t :: rest =>
    let put := fun (piece : Piece) (rest : List Token) =>
      (piecesFrom? fuel closing rest).map fun (more, after) => (piece :: more, after)
    match t with
    | .broken => none
    | .function name => do
      let (inside, rest) ← piecesFrom? fuel (some ')') rest
      put (.call name inside) rest
    | .mark c =>
      if some c == closing then some ([], rest)
      else if c == ')' || c == ']' || c == '\x7d' then none
      else
        match closing? c with
        | some d => do
          let (inside, rest) ← piecesFrom? fuel (some d) rest
          put (.bracket c inside) rest
        | none => put (.token t) rest
    | t => put (.token t) rest

/-- The pieces of a text; none if its brackets do not match. -/
def pieces? (text : List Char) : Option (List Piece) :=
  let ts := tokens text
  (piecesFrom? (ts.length + 1) none ts).map Prod.fst

namespace Piece

def isBlank : Piece → Bool
  | .token .blank => true
  | _ => false

def isMark (c : Char) : Piece → Bool
  | .token (.mark d) => c == d
  | _ => false

/-- The piece is what the body of a rule stands in. -/
def isBody : Piece → Bool
  | .bracket c _ => c == '\x7b'
  | _ => false

mutual

/-- How many tokens and brackets a piece holds. -/
def size : Piece → Nat
  | .token _ => 1
  | .call _ inside => sizes inside + 1
  | .bracket _ inside => sizes inside + 1

/-- How many tokens and brackets pieces hold. -/
def sizes : List Piece → Nat
  | [] => 0
  | p :: rest => size p + sizes rest

end

mutual

/-- How deep brackets stand in a piece. -/
def depth : Piece → Nat
  | .token _ => 0
  | .call _ inside => depths inside + 1
  | .bracket _ inside => depths inside + 1

/-- How deep brackets stand in pieces. -/
def depths : List Piece → Nat
  | [] => 0
  | p :: rest => max (depth p) (depths rest)

end

end Piece

/-- The pieces from the first one that is not blank on. -/
def dropBlank (ps : List Piece) : List Piece := ps.dropWhile Piece.isBlank

/-- The pieces between the first and last that are not blank. -/
def trimBlank (ps : List Piece) : List Piece := (dropBlank (dropBlank ps).reverse).reverse

/-- The pieces that are not blank. -/
def words (ps : List Piece) : List Piece := ps.filter fun p => !p.isBlank

/-- What stands between the pieces that satisfy `p`. -/
def splitWhere (p : Piece → Bool) : List Piece → List (List Piece)
  | [] => [[]]
  | x :: rest =>
    match splitWhere p rest with
    | part :: parts => if p x then [] :: part :: parts else (x :: part) :: parts
    | [] => [[x]]

/-- What stands between commas. -/
def commaParts (ps : List Piece) : List (List Piece) := splitWhere (Piece.isMark ',') ps

/-- A name in small letters. -/
def lower (name : List Char) : List Char := name.map Char.toLower

end LiterateSite.Style
