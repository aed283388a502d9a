import LiterateSite.Style.Condition
import LiterateSite.Style.Selector

/-!
# Style sheets

* `Declaration`, `Rule`, `Sheet`: the rules of a sheet; what stands before their bodies is kept in
  its shortest form.
* `Sheet.read?`: the rules of a text. One rule that cannot be read spoils the sheet.
-/

namespace LiterateSite.Style

/-- A property and its value. -/
structure Declaration where
  property : List Char
  value : List Piece
  important : Bool := false
  deriving Repr, Inhabited

/-- A rule of a style sheet. -/
inductive Rule where
  /-- A rule for what selectors select, with the rules that it holds itself. -/
  | select (selectors : List Char) (declarations : List Declaration) (rules : List Rule)
  /-- Declarations of the rule around, after rules that it holds. -/
  | loose (declarations : List Declaration)
  /-- Rules that share a condition. -/
  | group (name condition : List Char) (rules : List Rule)
  /-- Declarations under a name of their own. -/
  | block (name subject : List Char) (declarations : List Declaration)
  /-- The steps of an animation, each with the moments at which it is reached. -/
  | frames (name animation : List Char) (steps : List (List Char × List Declaration))
  /-- A rule without body. -/
  | statement (name subject : List Char)
  /-- A rule of which nothing is known but its tokens. -/
  | unknown (name : List Char) (subject : List Piece) (body : Option (List Piece))
  deriving Repr, Inhabited

/-- The rules of a style sheet, in order. -/
abbrev Sheet := List Rule

/-! ## Declarations -/

/-- How deep brackets may stand in a value. -/
def deepest : Nat := 500

/-- A declaration and whether it is marked as important. A value with a body in it is none, unless
the property is custom. -/
def declaration? (ps : List Piece) : Option Declaration :=
  match ps with
  | .token (.ident property) :: rest =>
    match dropBlank rest with
    | .token (.mark ':') :: rest =>
      let value := rest.takeWhile fun p => !p.isMark '!'
      if value.any Piece.isBody && !"--".toList.isPrefixOf property || Piece.depths value > deepest
      then none
      else
        match words (rest.drop value.length) with
        | [] => some ⟨property, value, false⟩
        | [_, word] => if isWord "important" word then some ⟨property, value, true⟩ else none
        | _ => none
    | _ => none
  | _ => none

/-- The declarations of a body that holds nothing else. -/
def declarations? (ps : List Piece) : Option (List Declaration) :=
  ((splitWhere (Piece.isMark ';') ps).map trimBlank).filter (fun part => !part.isEmpty)
    |>.mapM declaration?

/-! ## Rules with a name -/

/-- The moment of an animation that a word names. -/
def moment? : Piece → Option (List Char)
  | .token (.ident name) =>
    match lowered name with
    | "from" => some "0%".toList
    | "to" => some "to".toList
    | _ => none
  | .token (.number digits ['%']) =>
    let text := (Amount.read digits).text ++ ['%']
    some (if text == "100%".toList then "to".toList else text)
  | _ => none

/-- The steps of an animation; `fuel` is more than the number of pieces. -/
def steps? : Nat → List Piece → Option (List (List Char × List Declaration))
  | 0, _ => none
  | fuel + 1, ps =>
    match dropBlank ps with
    | [] => some []
    | ps =>
      let before := ps.takeWhile fun p => !p.isBody
      match ps.drop before.length with
      | .bracket _ inside :: rest => do
        let moments ← (commaParts before).mapM fun part =>
          match words part with
          | [p] => moment? p
          | _ => none
        let declarations ← declarations? inside
        return ((moments.intersperse [',']).flatten, declarations) :: (← steps? fuel rest)
      | _ => none

/-- A name of an animation. -/
def animationName? (ps : List Piece) : Option (List Char) :=
  match words ps with
  | [.token (.ident name)] => some (nameText name)
  | [.token (.string name)] =>
    some (if ("none" :: "default" :: wideWords).contains (lowered name) then stringText name
      else nameText name)
  | _ => none

/-- Names of layers, with commas between them. -/
def layers? (ps : List Piece) : Option (List Char) :=
  ((commaParts ps).mapM fun part =>
    let part := words part
    let isName := part.all fun
      | .token (.ident _) => true
      | p => p.isMark '.'
    if part.isEmpty || !isName then none
    else some (part.flatMap fun
      | .token t => t.text
      | _ => [])).map fun texts => (texts.intersperse [',']).flatten

/-- A sheet to take in first, and the condition for it. -/
def imported? (ps : List Piece) : Option (List Char) :=
  let place? : Piece → Option (List Char)
    | .token (.string address) | .token (.url address) => some (stringText address)
    | .call name inside =>
      match lowered name, words inside with
      | "url", [.token (.string address)] => some (stringText address)
      | _, _ => none
    | _ => none
  match words ps with
  | first :: rest => do
    let address ← place? first
    let (layer, rest) ←
      match rest with
      | .token (.ident name) :: more =>
        if lowered name == "layer" then some (" layer".toList, more) else some ([], rest)
      | .call name inside :: more =>
        if lowered name == "layer" then
          (layers? inside).map fun text => (" layer(".toList ++ text ++ [')'], more)
        else some ([], rest)
      | rest => some ([], rest)
    let (support, rest) ←
      match rest with
      | .call name inside :: more =>
        if lowered name == "supports" then
          ((knownDeclaration? inside).or (supportsText? inside)).map fun text =>
            (" supports(".toList ++ text ++ [')'], more)
        else some ([], rest)
      | rest => some ([], rest)
    let media ← mediaText? rest
    return address ++ layer ++ support ++ if media.isEmpty then [] else ' ' :: media
  | [] => none

/-- A name for elements of one kind of document. -/
def namespace? (ps : List Piece) : Option (List Char) :=
  let address? : List Piece → Option (List Char)
    | [.token (.string address)] | [.token (.url address)] => some (stringText address)
    | _ => none
  match words ps with
  | .token (.ident name) :: rest => (address? rest).map fun text => nameText name ++ ' ' :: text
  | ps => address? ps

/-! ## Rules -/

/-- A part of a body. -/
inductive Item where
  | declaration (d : Declaration)
  | rule (r : Rule)
  deriving Repr, Inhabited

/-- Declarations between rules become a rule of their own. -/
def looseRules : List Item → List Rule
  | [] => []
  | .rule r :: rest => r :: looseRules rest
  | .declaration d :: rest =>
    match looseRules rest with
    | .loose ds :: more => .loose (d :: ds) :: more
    | more => .loose [d] :: more

/-- The declarations that a body begins with, and the rules after them. -/
def splitItems : List Item → List Declaration × List Rule
  | .declaration d :: rest =>
    let (ds, rules) := splitItems rest
    (d :: ds, rules)
  | items => ([], looseRules items)

/-- Rules whose bodies hold declarations. -/
def blockNames : List String :=
  ["font-face", "page", "property", "counter-style", "font-palette-values", "view-transition",
    "position-try", "viewport", "-ms-viewport", "-o-viewport"]

/-- A rule with a name and a body, or without one. `body` reads the rules in a body. -/
def namedRule? (body : List Piece → Option (List Rule)) (name : List Char) (subject : List Piece)
    (inside : Option (List Piece)) : Option (List Rule) :=
  let one := fun (r : Option Rule) => r.map fun r => [r]
  let name' := lowered name
  match inside with
  | none =>
    match name' with
    | "import" => one ((imported? subject).map (.statement (lower name)))
    | "namespace" => one ((namespace? subject).map (.statement (lower name)))
    | "layer" => one ((layers? subject).map (.statement (lower name)))
    | "charset" =>
      match words subject with
      | [.token (.string _)] => some []
      | _ => none
    | _ =>
      if (["media", "supports", "container", "keyframes"] ++ blockNames).contains name' then none
      else some [.unknown name subject none]
  | some inside =>
    let group := fun (condition : Option (List Char)) => one do
      return .group (lower name) (← condition) (← body inside)
    match name' with
    | "media" => group (mediaText? subject)
    | "supports" => group (supportsText? subject)
    | "container" => group (containerText? subject)
    | "-moz-document" => group ((words subject).mapM (word? ⟨false, false⟩) |>.map (joinWords true))
    | "starting-style" => group (if (words subject).isEmpty then some [] else none)
    | "layer" => group (if (words subject).isEmpty then some [] else layers? subject)
    | "keyframes" | "-webkit-keyframes" | "-moz-keyframes" | "-o-keyframes" => one do
      return .frames (lower name) (← animationName? subject) (← steps? (inside.length + 1) inside)
    | "import" | "namespace" | "charset" => none
    | _ =>
      if blockNames.contains name' then
        one ((declarations? inside).map (.block (lower name) (plainText (trimBlank subject))))
      else some [.unknown name subject (some inside)]

/-- The parts of a body, or of a sheet if it is not `within` a rule; `fuel` is more than the number
of pieces. -/
def items? : Nat → Bool → List Piece → Option (List Item)
  | 0, _, _ => none
  | fuel + 1, within, ps =>
    match dropBlank ps with
    | [] => some []
    | first :: rest =>
      let endsHere := fun (p : Piece) => p.isBody || p.isMark ';'
      let body := fun (inside : List Piece) => (items? fuel within inside).map looseRules
      match first with
      | .token .markup => if within then none else items? fuel within rest
      | .token (.atWord name) =>
        let subject := rest.takeWhile fun p => !endsHere p
        let (inside, after) :=
          match rest.drop subject.length with
          | .bracket _ inside :: after => (some inside, after)
          | after => (none, after.drop 1)
        do
          let rules ← namedRule? body name (trimBlank subject) inside
          return rules.map Item.rule ++ (← items? fuel within after)
      | _ =>
        if within && first.isMark ';' then items? fuel within rest
        else
          let line := (first :: rest).takeWhile fun p => !p.isMark ';'
          match if within then declaration? line else none with
          | some d =>
            (items? fuel within ((first :: rest).drop (line.length + 1))).map (.declaration d :: ·)
          | none =>
            let before := (first :: rest).takeWhile fun p =>
              if within then !endsHere p else !p.isBody
            match (first :: rest).drop before.length with
            | .bracket _ inside :: after => do
              let selectors ← selectors? within before
              let (declarations, rules) := splitItems (← items? fuel true inside)
              return .rule (.select selectors declarations rules) :: (← items? fuel within after)
            | _ => none

/-- The part of a sheet that a rule belongs to: layers come first, then imports, namespaces and all
others. -/
def stage (before : Nat) : Rule → Option Nat
  | .statement name _ =>
    match String.ofList name with
    | "layer" => some (if before == 0 then 0 else 3)
    | "import" => if before ≤ 1 then some 1 else none
    | "namespace" => if before ≤ 2 then some 2 else none
    | _ => some 3
  | _ => some 3

/-- The rules of a text. -/
def Sheet.read? (text : List Char) : Option Sheet := do
  let ps ← pieces? text
  let rules := looseRules (← items? (2 * Piece.sizes ps + 2) false ps)
  let _ ← rules.foldlM stage 0
  return rules

end LiterateSite.Style
