import LiterateSite.Style.Value

/-!
# Selectors

* `selectors?`: a list of selectors in its shortest form.
-/

namespace LiterateSite.Style

/-- What stands in the brackets of an attribute selector, in its shortest form. -/
def attribute? (inside : List Piece) : Option (List Char) :=
  let operator? : Piece → Option Char
    | .token (.mark c) => if "=~|^$*".toList.contains c then some c else none
    | _ => none
  match words inside with
  | [.token (.ident name)] => some (nameText name)
  | .token (.ident name) :: rest =>
    let operator := (rest.map operator?).takeWhile Option.isSome |>.filterMap id
    if !(["=", "~=", "|=", "^=", "$=", "*="].contains (String.ofList operator)) then none
    else
      let value? : Piece → Option (List Char)
        | .token (.ident value) | .token (.string value) =>
          let bare := nameText value
          let quoted := stringText value
          some (if value.isEmpty || bare.length ≥ quoted.length then quoted else bare)
        | _ => none
      match rest.drop operator.length with
      | [value] => (value? value).map fun value => nameText name ++ operator ++ value
      | [value, .token (.ident [c])] =>
        if c.toLower == 'i' || c.toLower == 's' then
          (value? value).map fun value => nameText name ++ operator ++ value ++ [' ', c.toLower]
        else none
      | _ => none
  | _ => none

/-- A number with its sign. -/
def signed (n : Int) : List Char := (if n < 0 then "-" else "+").toList ++ Nat.toDigits 10 n.natAbs

/-- The number that a sign and digits write; nothing writes one if `empty` is so. -/
def signedNumber? (text : List Char) (empty : Option Int) : Option Int :=
  let (sign, digits) : Int × List Char :=
    match text with
    | '-' :: ds => (-1, ds)
    | '+' :: ds => (1, ds)
    | ds => (1, ds)
  if digits.isEmpty then empty.map (sign * ·)
  else if digits.all Char.isDigit then some (sign * Text.decimalNumber digits)
  else none

/-- Every how many elements, and the first of them, as text in its shortest form. -/
def everyNth? (inside : List Piece) : Option (List Char) :=
  let text := (words inside).flatMap fun
    | .token t => lower t.text
    | _ => ['(']
  let pair : Option (Int × Int) :=
    match String.ofList text with
    | "odd" => some (2, 1)
    | "even" => some (2, 0)
    | _ =>
      if text.contains 'n' then do
        let step ← signedNumber? (text.takeWhile (· != 'n')) (some 1)
        match (text.dropWhile (· != 'n')).drop 1 with
        | [] => some (step, 0)
        | c :: rest =>
          if c == '+' || c == '-' then (signedNumber? (c :: rest) none).map (step, ·) else none
      else (signedNumber? text none).map (0, ·)
  pair.map fun (step, first) =>
    let steps : List Char :=
      if step == 1 then ['n']
      else if step == -1 then ['-', 'n']
      else (if step < 0 then ['-'] else []) ++ Nat.toDigits 10 step.natAbs ++ ['n']
    if step == 0 then (if first < 0 then ['-'] else []) ++ Nat.toDigits 10 first.natAbs
    else if step == 2 && first == 1 then "odd".toList
    else if first == 0 then steps
    else steps ++ signed first

/-- Where a reader of selectors stands. -/
inductive Stand where
  /-- At the start of a selector. -/
  | first
  /-- After a combinator. -/
  | joined
  /-- After a part of a selector. -/
  | inside
  /-- After a part of an element that is no element itself; little can follow. -/
  | element
  deriving DecidableEq, Repr

/-- Elements by their old names, with one colon. -/
def oldElements : List String := ["before", "after", "first-line", "first-letter"]

/-- Functions of selectors. -/
def selectorFunctions : List String := ["not", "is", "where", "host", "host-context", "-webkit-any", "-moz-any"]

/-- The selector is one part, and no name of elements. -/
def isOnePart (ps : List Piece) : Bool :=
  match words ps with
  | [.token (.hash _)] => true
  | [.token (.mark '.'), .token (.ident _)] => true
  | [.token (.mark ':'), .token (.ident name)] => !oldElements.contains (lowered name)
  | [.bracket '[' _] => true
  | _ => false

/-- Read selectors in their shortest form; if they are `relative`, they may begin with a combinator.
`fuel` is more than the number of tokens. -/
def selectorsFrom? (relative : Bool) : Nat → Stand → List Piece → Option (List Char)
  | 0, _, _ => none
  | _ + 1, stand, [] => if stand == .first || stand == .joined then none else some []
  | fuel + 1, stand, p :: rest =>
    let waits := stand == .first || stand == .joined
    let put := fun (text : List Char) (rest : List Piece) =>
      (selectorsFrom? relative fuel .inside rest).map (text ++ ·)
    let isCombinator := fun (p : Piece) => p.isMark '>' || p.isMark '+' || p.isMark '~'
    let join := fun (c : Char) (rest : List Piece) =>
      (selectorsFrom? relative fuel .joined (dropBlank rest)).map (c :: ·)
    match p with
    | .token .blank =>
      match dropBlank rest with
      | [] => selectorsFrom? relative fuel stand []
      | next :: after =>
        if waits || isCombinator next || next.isMark ',' then
          selectorsFrom? relative fuel stand (next :: after)
        else if stand == .element then none
        else join ' ' (next :: after)
    | .token (.mark ',') =>
      if waits then none else (selectorsFrom? relative fuel .first rest).map (',' :: ·)
    | .token (.mark ':') =>
      let double := rest.head?.any (Piece.isMark ':')
      match if double then rest.drop 1 else rest with
      | .token (.ident name) :: after =>
        let old := oldElements.contains (lowered name)
        let colons := if double && !old then [':', ':'] else [':']
        (selectorsFrom? relative fuel (if double || old then .element else .inside) after).map
          fun more => colons ++ nameText (lower name) ++ more
      | .call name inside :: after =>
        let head := (if double then [':', ':'] else [':']) ++ nameText (lower name) ++ ['(']
        let close := fun (text : List Char) => put (head ++ text ++ [')']) after
        let name := lowered name
        if selectorFunctions.contains name && !double then
          if name == "is" && isOnePart inside then
            (selectorsFrom? false fuel .first (trimBlank inside)).bind fun text => put text after
          else if (name == "is" || name == "where") && (words inside).isEmpty then close []
          else (selectorsFrom? false fuel .first (trimBlank inside)).bind close
        else if name == "has" then (selectorsFrom? true fuel .first (trimBlank inside)).bind close
        else if name == "slotted" || name == "cue" then
          (selectorsFrom? false fuel .first (trimBlank inside)).bind close
        else if ["nth-child", "nth-last-child", "nth-of-type", "nth-last-of-type"].contains name then
          (everyNth? inside).bind close
        else if (words inside).isEmpty then none
        else close (plainText inside)
      | _ => none
    | .token (.mark c) =>
      if isCombinator p then
        if stand == .inside || stand == .first && relative then join c rest else none
      else if stand == .element then none
      else if c == '&' then put ['&'] rest
      else if c == '*' then
        if !waits then none
        else
          match rest with
          | .token (.mark d) :: _ => put (if d == '.' || d == ':' then [] else ['*']) rest
          | .token (.hash _) :: _ | .bracket '[' _ :: _ => put [] rest
          | _ => put ['*'] rest
      else if c == '.' then
        match rest with
        | .token (.ident name) :: after => put ('.' :: nameText name) after
        | _ => none
      else none
    | .token (.ident name) => if waits then put (nameText name) rest else none
    | .token (.hash name) =>
      if stand != .element && beginsName name then put ('#' :: nameText name) rest else none
    | .bracket '[' inside =>
      if stand == .element then none
      else (attribute? inside).bind fun text => put ('[' :: text ++ [']']) rest
    | _ => none

/-- A list of selectors in its shortest form. -/
def selectors? (relative : Bool) (ps : List Piece) : Option (List Char) :=
  selectorsFrom? relative (2 * Piece.sizes ps + 2) .first (trimBlank ps)

end LiterateSite.Style
