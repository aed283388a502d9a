import LiterateSite.Template.Statement
import LiterateSite.Template.Token

/-!
# Reading expressions

* `Reader`: reads from the tokens of a tag. It knows how deep it is, and refuses to go too deep.
* `expression`: an expression; operators bind in the order of their levels.
* `target`: what a value is given to.
-/

namespace LiterateSite.Template

/-- How deep statements and expressions may lie within each other. -/
def depthLimit : Nat := 150

/-- Reads from tokens, at a depth. -/
abbrev Reader := ReaderT Nat (StateT (List Token) (Except TemplateError))

namespace Reader

/-- The next token. -/
def peek? : Reader (Option Token) := do
  match (← get).head? with
  | some (.bad e) => throw e
  | t => return t

def skip : Reader Unit := modify (·.drop 1)

def failure {α : Type} : Reader α := throw .badSource

/-- The next token is `t`. -/
def isAt (t : Token) : Reader Bool := do return (← peek?) == some t

/-- Take the next token if it is `t`. -/
def accept (t : Token) : Reader Bool := do
  if ← isAt t then
    skip
    return true
  else return false

def expect (t : Token) : Reader Unit := do
  if ← accept t then return () else failure

def name : Reader (List Char) := do
  match ← peek? with
  | some (.word w) =>
    skip
    return w
  | _ => failure

/-- The end of the tag. -/
def done : Reader Unit := do
  match ← peek? with
  | none => return ()
  | some _ => failure

/-- Go one step deeper. -/
def deeper {α : Type} (r : Reader α) : Reader α := fun depth =>
  if depth + 1 > depthLimit then throw .badSource else r (depth + 1)

end Reader

open Reader

def mark (s : String) : Token := .mark s.toList

def word (s : String) : Token := .word s.toList

/-- The binary operators that stand at a level, loosest first. -/
def operatorAt? (level : Nat) (t : Token) : Option (Expr → Expr → Expr) :=
  match level with
  | 0 => if t == word "or" then some .either else none
  | 1 => if t == word "and" then some .both else none
  | 4 =>
    if t == mark "+" then some (.binary .add)
    else if t == mark "-" then some (.binary .sub)
    else none
  | 5 => if t == mark "~" then some (.binary .concat) else none
  | 6 =>
    if t == mark "*" then some (.binary .mul)
    else if t == mark "/" then some (.binary .div)
    else if t == mark "//" then some (.binary .floorDiv)
    else if t == mark "%" then some (.binary .mod)
    else none
  | 7 => if t == mark "**" then some (.binary .pow) else none
  | _ => none

/-- The comparison that a token writes. -/
def comparison? (t : Token) : Option Comparison :=
  if t == mark "==" then some .eq
  else if t == mark "!=" then some .ne
  else if t == mark "<" then some .lt
  else if t == mark "<=" then some .le
  else if t == mark ">" then some .gt
  else if t == mark ">=" then some .ge
  else if t == word "in" then some .isIn
  else none

/-- Words that are values. -/
def constant? (w : List Char) : Option Value :=
  if w == "true".toList || w == "True".toList then some (.bool true)
  else if w == "false".toList || w == "False".toList then some (.bool false)
  else if w == "none".toList || w == "None".toList then some .none
  else none

/-- The token may begin the argument of a test that stands without parentheses. -/
def beginsArgument : Token → Bool
  | .word w => !(["and", "or", "else", "is"].contains (String.ofList w))
  | .text _ | .int _ | .float _ => true
  | .mark m => ["+", "-", "[", "\x7b"].contains (String.ofList m)
  | .bad _ => false

/-- Items separated by commas up to a closing mark; a comma may precede the mark. -/
def commaList {α : Type} (closing : Token) (item : Reader α) : Nat → Bool → Reader (List α)
  | 0, _ => failure
  | fuel + 1, first => do
    if ← accept closing then return []
    if !first then
      expect (mark ",")
      if ← accept closing then return []
    let x ← item
    return x :: (← commaList closing item fuel false)

/-- An argument without a name. -/
def Expr.isPositional : Expr → Bool
  | .named .. | .spreadNamed _ => false
  | _ => true

/-- No argument without a name follows one with a name, lists of them apart. -/
def argumentsInOrder : Bool → List Expr → Bool
  | _, [] => true
  | named, .spread _ :: rest => argumentsInOrder named rest
  | named, e :: rest =>
    if e.isPositional then !named && argumentsInOrder named rest else argumentsInOrder true rest

/-- A chain of comparisons: of one alone, a comparison. -/
def chain (first : Expr) (rest : List (Comparison × Expr)) : Expr :=
  if rest.isEmpty then first else .compare first (rest.map (·.1)) (rest.map (·.2))

/-- A call: of a name, of a block of the template, or of a method. -/
def callOf (callee : Expr) (args : List Expr) : Expr :=
  match callee with
  | .attr (.var v) name => if v == "self".toList then .block name else .method (.var v) name args
  | .attr e name => .method e name args
  | e => .call e args

mutual

/-- A whole expression, conditional ones included. -/
def expression : Nat → Reader Expr
  | 0 => failure
  | fuel + 1 => deeper do
    let e ← operand fuel 0
    conditional fuel e

/-- The conditions that follow an expression. -/
def conditional : Nat → Expr → Reader Expr
  | 0, _ => failure
  | fuel + 1, yes => do
    if ← accept (word "if") then
      let test ← operand fuel 0
      if ← accept (word "else") then
        -- the depth counts for whole expressions only
        let no ← operand fuel 0
        let no ← conditional fuel no
        conditional fuel (.ifElse yes test no)
      else conditional fuel (.ifElse yes test (.const .undefined))
    else return yes

/-- An expression of the operators from a level on. -/
def operand : Nat → Nat → Reader Expr
  | 0, _ => failure
  | fuel + 1, level =>
    if level == 2 then do
      if ← accept (word "not") then return .not (← operand fuel 2)
      else operand fuel 3
    else if level == 3 then do
      let e ← operand fuel 4
      return chain e (← comparisons fuel)
    else if level ≥ 8 then do
      let e ← negated fuel
      let e ← postfixes fuel e
      filters fuel e
    else do
      let e ← operand fuel (level + 1)
      operators fuel level e

/-- The operators of a level after their first operand. -/
def operators : Nat → Nat → Expr → Reader Expr
  | 0, _, _ => failure
  | fuel + 1, level, left => do
    match (← peek?).bind (operatorAt? level) with
    | some combine =>
      skip
      let right ← operand fuel (level + 1)
      operators fuel level (combine left right)
    | none => return left

/-- The comparisons after their first operand. -/
def comparisons : Nat → Reader (List (Comparison × Expr))
  | 0 => failure
  | fuel + 1 => do
    if ← accept (word "not") then
      expect (word "in")
      let right ← operand fuel 4
      return (.notIn, right) :: (← comparisons fuel)
    else
      match (← peek?).bind comparison? with
      | some op =>
        skip
        let right ← operand fuel 4
        return (op, right) :: (← comparisons fuel)
      | none => return []

/-- A value with signs before it. -/
def negated : Nat → Reader Expr
  | 0 => failure
  | fuel + 1 => do
    if ← accept (mark "-") then return .neg (← negated fuel)
    else deeper (primary fuel)

/-- A literal, a name, or an expression in brackets. -/
def primary : Nat → Reader Expr
  | 0 => failure
  | fuel + 1 => do
    match ← peek? with
    | some (.word w) =>
      skip
      match constant? w with
      | some v => return .const v
      | none => return .var w
    | some (.int n) =>
      skip
      return .const (.int n)
    | some (.float x) =>
      skip
      return .const (.float x)
    | some (.text chars) =>
      skip
      return .const (.text (chars ++ (← moreText fuel)))
    | some (.mark ['(']) =>
      skip
      if ← accept (mark ")") then return .list []
      let e ← expression fuel
      if ← accept (mark ")") then return e
      expect (mark ",")
      let rest ← commaList (mark ")") (expression fuel) fuel true
      return .list (e :: rest)
    | some (.mark ['[']) =>
      skip
      return .list (← commaList (mark "]") (expression fuel) fuel true)
    | some (.mark ['\x7b']) =>
      skip
      let entries ← commaList (mark "\x7d") (do
        let key ← expression fuel
        expect (mark ":")
        return (key, ← expression fuel)) fuel true
      return .map (entries.map (·.1)) (entries.map (·.2))
    | _ => failure

/-- The strings that follow a string are part of it. -/
def moreText : Nat → Reader (List Char)
  | 0 => failure
  | fuel + 1 => do
    match ← peek? with
    | some (.text chars) =>
      skip
      return chars ++ (← moreText fuel)
    | _ => return []

/-- Attributes, items and calls after an expression. -/
def postfixes : Nat → Expr → Reader Expr
  | 0, _ => failure
  | fuel + 1, e => do
    if ← accept (mark ".") then
      match ← peek? with
      | some (.int n) =>
        skip
        postfixes fuel (.item e (.const (.int n)))
      | _ => postfixes fuel (.attr e (← name))
    else if ← accept (mark "[") then
      let e' ← subscript fuel e
      postfixes fuel e'
    else if ← isAt (mark "(") then
      let args ← arguments fuel
      postfixes fuel (callOf e args)
    else return e

/-- What stands in square brackets after an expression. -/
def subscript : Nat → Expr → Reader Expr
  | 0, _ => failure
  | fuel + 1, e => do
    let first ← if ← isAt (mark ":") then pure (.const .none) else expression fuel
    if ← accept (mark "]") then return .item e first
    expect (mark ":")
    let last ← bound fuel
    let step ← if ← accept (mark ":") then bound fuel else pure (.const .none)
    expect (mark "]")
    return .slice e first last step

/-- A bound in square brackets; it may be left out. -/
def bound : Nat → Reader Expr
  | 0 => failure
  | fuel + 1 => do
    if (← isAt (mark ":")) || (← isAt (mark "]")) then return .const .none
    else expression fuel

/-- An argument: with a name, without one, or several from a value. -/
def argument : Nat → Reader Expr
  | 0 => failure
  | fuel + 1 => do
    if ← accept (mark "**") then return .spreadNamed (← expression fuel)
    else if ← accept (mark "*") then return .spread (← expression fuel)
    else
      match ← expression fuel with
      | .var n =>
        if ← accept (mark "=") then return .named n (← operand fuel 0)
        else return .var n
      | e => return e

/-- Arguments in parentheses. -/
def arguments : Nat → Reader (List Expr)
  | 0 => failure
  | fuel + 1 => do
    expect (mark "(")
    let args ← commaList (mark ")") (argument fuel) fuel true
    if argumentsInOrder false args && args.length ≤ 2000 then return args else failure

/-- The filters and tests after an expression. -/
def filters : Nat → Expr → Reader Expr
  | 0, _ => failure
  | fuel + 1, e => do
    if ← accept (mark "|") then
      let n ← name
      let args ← if ← isAt (mark "(") then arguments fuel else pure []
      filters fuel (.filter n e args)
    else if ← accept (word "is") then
      let negative ← accept (word "not")
      let n ← name
      let args ←
        if ← isAt (mark "(") then arguments fuel
        else if (← peek?).any beginsArgument then do
          let e ← negated fuel
          pure [← postfixes fuel e]
        else pure []
      let e := .test n e args
      filters fuel (if negative then .not e else e)
    else return e

end

/-- Enough steps to read an expression from so many tokens. -/
def enough (tokens : Nat) : Nat := 16 * (tokens + 1)

/-- Read an expression. -/
def expr : Reader Expr := do expression (enough (← get).length)

/-- Read an expression without a condition after it. -/
def plainExpr : Reader Expr := do operand (enough (← get).length) 0

/-- Read arguments. -/
def callArguments : Reader (List Expr) := do arguments (enough (← get).length)

/-- The expressions that follow a comma, up to the end of the tag. -/
def moreItems : Nat → Reader (List Expr)
  | 0 => failure
  | fuel + 1 => do
    if (← peek?).isNone then return []
    let e ← expr
    if ← accept (mark ",") then return e :: (← moreItems fuel)
    return [e]

/-- Read an expression, or a list of them without brackets. -/
def exprList : Reader Expr := do
  let e ← expr
  if ← accept (mark ",") then return .list (e :: (← moreItems ((← get).length + 1)))
  return e

/-! ## Targets -/

/-- Names that no value can be given to. -/
def reservedNames : List String :=
  ["true", "True", "false", "False", "none", "None", "loop", "self"]

/-- A name to give a value to. -/
def targetName : Reader (List Char) := do
  let n ← name
  if reservedNames.contains (String.ofList n) then failure else return n

/-- The fields after a name: the last one is given a value. -/
def targetFields : Nat → Expr → List Char → Reader Target
  | 0, _, _ => failure
  | fuel + 1, subject, n => do
    if ← accept (mark ".") then targetFields fuel (.attr subject n) (← name)
    else return .field subject n

/-- A name, or a field of what a name stands for. -/
def fieldTarget : Reader Target := do
  let n ← targetName
  if ← accept (mark ".") then targetFields ((← get).length + 1) (.var n) (← name)
  else return .name n

/-- A list of targets that ends before a token: of one alone, that target. -/
def targetOf (items : List Target × Bool) : Target :=
  match items with
  | ([t], false) => t
  | (ts, _) => .each ts

/-- What ends a list of targets. -/
def endsTargets (t : Option Token) : Bool :=
  match t with
  | none => true
  | some t => t == mark ")" || t == word "in" || t == mark "="

/-- Targets with commas between them, and whether there is a comma. -/
def targets (fields : Bool) : Nat → Reader (List Target × Bool)
  | 0 => failure
  | fuel + 1 => do
    if endsTargets (← peek?) then return ([], false)
    let t ←
      if ← accept (mark "(") then do
        let inner ← targets false fuel
        expect (mark ")")
        pure (targetOf inner)
      else if fields then fieldTarget
      else do pure (.name (← targetName))
    if ← accept (mark ",") then
      let (ts, _) ← targets fields fuel
      return (t :: ts, true)
    else return ([t], false)

/-- Read what a value is given to. -/
def target (fields : Bool) : Reader Target := do
  return targetOf (← targets fields ((← get).length + 1))

end LiterateSite.Template
