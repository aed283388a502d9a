import LiterateSite.Template.Reader

/-!
# Reading templates

* `Opening`: what the first tag of a statement says.
* `Document.read`: the statements and blocks of a source.
-/

namespace LiterateSite.Template

open Reader

/-- What the first tag of a statement says, when statements up to an end tag follow. -/
inductive Opening where
  | single (s : Stmt)
  | branch (test : Expr)
  | loop (target : Target) (source : Expr) (test : Option Expr) (recursive : Bool)
  | capture (target : Target) (filters : FilterChain)
  | scope (targets : List Target) (values : List Expr)
  | block (name : List Char)
  | escaping (on : Expr)
  | filtered (filters : FilterChain)
  | define (name : List Char) (parameters : Parameters)
  | callWith (call : Expr) (parameters : Parameters)
  deriving Repr, Inhabited

/-- The filters of a tag, the first one without a bar. -/
def filterChain : Nat → Reader FilterChain
  | 0 => failure
  | fuel + 1 => do
    let n ← name
    let args ← if ← isAt (mark "(") then callArguments else pure []
    if (← peek?).isNone then return [(n, args)]
    expect (mark "|")
    if (← peek?).isNone then failure
    return (n, args) :: (← filterChain fuel)

/-- Assignments separated by commas. -/
def assignments : Nat → Reader (List (Target × Expr))
  | 0 => failure
  | fuel + 1 => do
    if (← peek?).isNone then return []
    let t ←
      if ← accept (mark "(") then do
        let t ← target false
        expect (mark ")")
        pure t
      else do pure (.name (← targetName))
    expect (mark "=")
    let e ← expr
    if ← accept (mark ",") then
      if (← peek?).isNone then failure
      return (t, e) :: (← assignments fuel)
    done
    return [(t, e)]

/-- The parameters of a macro, up to the closing parenthesis. Once one has a value by default, all
that follow have one. -/
def parametersFrom : Nat → Parameters → Reader Parameters
  | 0, _ => failure
  | fuel + 1, ps => do
    if ← accept (mark ")") then return ps
    if !ps.names.isEmpty then
      expect (mark ",")
      if ← accept (mark ")") then return ps
    let n ← targetName
    if ← accept (mark "=") then
      let e ← expr
      parametersFrom fuel { names := ps.names ++ [n], defaults := ps.defaults ++ [e] }
    else if ps.defaults.isEmpty then parametersFrom fuel { ps with names := ps.names ++ [n] }
    else failure

/-- The parameters of a macro in parentheses. -/
def parameters : Reader Parameters := do
  expect (mark "(")
  parametersFrom ((← get).length + 1) {}

/-- Whether another template sees the variables: it always does. -/
def contextClause : Reader Unit := do
  if (← accept (word "with")) || (← accept (word "without")) then expect (word "context")

/-- The names that are imported, each with the name it gets. -/
def importedNames : Nat → Reader (List (List Char × List Char))
  | 0 => failure
  | fuel + 1 => do
    if (← peek?).isNone then return []
    let n ← targetName
    let bound ← if ← accept (word "as") then targetName else pure n
    if ← accept (mark ",") then return (n, bound) :: (← importedNames fuel)
    return [(n, bound)]

/-- The end of the tag follows what has been read. -/
def ended {α : Type} (x : α) : Reader α := do
  done
  return x

/-- An expression that is a call. -/
def callExpr : Reader Expr := do
  match ← expr with
  | .call f args => return .call f args
  | .method e n args => return .method e n args
  | .block n => return .block n
  | _ => failure

/-- Read what follows the word `set`. -/
def setOpening : Reader Opening := do
  let t ← target true
  match t, ← peek? with
  | .each [], _ => failure
  | .each _, none => failure
  | t, none => return .capture t []
  | t, some next =>
    if next == mark "|" then
      skip
      let chain ← filterChain ((← get).length + 1)
      ended (.capture t chain)
    else
      expect (mark "=")
      let e ← exprList
      ended (.single (.assign t e))

/-- Read the first tag of a statement. -/
def opening : Reader Opening := do
  let keyword ← name
  match String.ofList keyword with
  | "if" =>
    let test ← expr
    ended (.branch test)
  | "for" =>
    let t ← target false
    expect (word "in")
    let source ← plainExpr
    let test ← if ← accept (word "if") then pure (some (← expr)) else pure none
    let recursive ← accept (word "recursive")
    ended (.loop t source test recursive)
  | "set" => setOpening
  | "with" =>
    let pairs ← assignments ((← get).length + 1)
    return .scope (pairs.map (·.1)) (pairs.map (·.2))
  | "block" =>
    let n ← name
    let _ ← accept (word "scoped")
    ended (.block n)
  | "extends" =>
    let e ← expr
    ended (.single (.extend e))
  | "include" =>
    let e ← expr
    contextClause
    if ← accept (word "ignore") then
      expect (word "missing")
      contextClause
      ended (.single (.include e true))
    else ended (.single (.include e false))
  | "autoescape" =>
    let e ← expr
    ended (.escaping e)
  | "filter" =>
    let chain ← filterChain ((← get).length + 1)
    ended (.filtered chain)
  | "do" =>
    let e ← callExpr
    ended (.single (.evaluate e))
  | "macro" =>
    let n ← name
    let ps ← parameters
    ended (.define n ps)
  | "call" =>
    let ps ← if ← isAt (mark "(") then parameters else pure {}
    let e ← callExpr
    ended (.callWith e ps)
  | "import" =>
    let e ← expr
    expect (word "as")
    let t ← target false
    contextClause
    ended (.single (.importAll e t))
  | "from" =>
    let e ← expr
    expect (word "import")
    let names ← importedNames ((← get).length + 1)
    contextClause
    ended (.single (.importSome e names))
  | _ => failure

/-- What ends a list of statements: nothing more, or a tag and the pieces after it. -/
abbrev Ending := Option (List Token × List Piece)

/-- Where statements are read: how deep, and whether they belong to a macro. -/
structure Surroundings where
  depth : Nat := 0
  inMacro : Bool := false
  deriving DecidableEq, Repr, Inhabited

/-- Blocks by name. -/
abbrev Blocks := List (List Char × List Stmt)

/-- Read a tag to its end. -/
def inTag {α : Type} (depth : Nat) (r : Reader α) (tokens : List Token) :
    Except TemplateError α := do
  let (x, _) ← (do
    let x ← r
    done
    return x : Reader α) depth tokens
  return x

/-- The keyword of a tag. -/
def keyword (tokens : List Token) : String :=
  match tokens with
  | .word w :: _ => String.ofList w
  | _ => ""

/-- The end tag has this keyword and nothing else. -/
def closes (kw : String) (ending : Ending) : Except TemplateError (List Piece) :=
  match ending with
  | some (tokens, rest) => do
    inTag 0 (expect (word kw)) tokens
    return rest
  | none => .error .badSource

/-- Keywords that end statements. -/
def endKeywords : List String :=
  ["elif", "else", "endif", "endfor", "endset", "endwith", "endblock", "endautoescape", "endfilter",
    "endmacro", "endcall"]

mutual

/-- The statements up to an end tag, the blocks among them and those before, and what ends them. -/
def statements : Nat → Surroundings → Blocks → List Piece → Except TemplateError (List Stmt × Blocks × Ending)
  | 0, _, _, _ => .error .badSource
  | _ + 1, _, blocks, [] => .ok ([], blocks, none)
  | _ + 1, _, _, .bad e :: _ => .error e
  | fuel + 1, p, blocks, .text chars :: rest => do
    let (ss, blocks, ending) ← statements fuel p blocks rest
    return (.text chars :: ss, blocks, ending)
  | fuel + 1, p, blocks, .print tokens :: rest => do
    let e ← inTag p.depth expr tokens
    let (ss, blocks, ending) ← statements fuel p blocks rest
    return (.print e :: ss, blocks, ending)
  | fuel + 1, p, blocks, .tag tokens :: rest =>
    if endKeywords.contains (keyword tokens) then .ok ([], blocks, some (tokens, rest))
    else if p.depth + 1 > depthLimit then .error .badSource
    else do
      let first ← inTag (p.depth + 1) opening tokens
      let (s, blocks, rest) ← statement fuel { p with depth := p.depth + 1 } blocks first rest
      let (ss, blocks, ending) ← statements fuel p blocks rest
      return (s :: ss, blocks, ending)

/-- The statement that a tag begins, with the blocks and the pieces after it. -/
def statement : Nat → Surroundings → Blocks → Opening → List Piece →
    Except TemplateError (Stmt × Blocks × List Piece)
  | 0, _, _, _, _ => .error .badSource
  | fuel + 1, p, blocks, first, rest =>
    match first with
    | .single s => .ok (s, blocks, rest)
    | .branch test => do
      let (yes, blocks, ending) ← statements fuel p blocks rest
      let (no, blocks, rest) ← alternative fuel p blocks ending
      return (.branch test yes no, blocks, rest)
    | .loop target source test recursive => do
      let (body, blocks, ending) ← statements fuel p blocks rest
      match ending with
      | some (tokens, rest') =>
        if keyword tokens == "else" then do
          inTag 0 (do skip) tokens
          let (otherwise, blocks, ending) ← statements fuel p blocks rest'
          let rest ← closes "endfor" ending
          return (.loop target source test recursive body otherwise, blocks, rest)
        else do
          let rest ← closes "endfor" ending
          return (.loop target source test recursive body [], blocks, rest)
      | none => throw .badSource
    | .capture target chain => do
      let (body, blocks, ending) ← statements fuel p blocks rest
      return (.capture target chain body, blocks, ← closes "endset" ending)
    | .scope targets values => do
      let (body, blocks, ending) ← statements fuel p blocks rest
      return (.scope targets values body, blocks, ← closes "endwith" ending)
    | .block n => do
      if p.inMacro || blocks.any fun (known, _) => known == n then throw .badSource
      let (body, blocks, ending) ← statements fuel p (blocks ++ [(n, [])]) rest
      let blocks := blocks.map fun (known, old) => if known == n then (n, body) else (known, old)
      match ending with
      | some (tokens, rest) =>
        inTag 0 (do
          expect (word "endblock")
          let _ ← accept (.word n)) tokens
        return (.block n, blocks, rest)
      | none => throw .badSource
    | .escaping on => do
      let (body, blocks, ending) ← statements fuel p blocks rest
      return (.escaping on body, blocks, ← closes "endautoescape" ending)
    | .filtered chain => do
      let (body, blocks, ending) ← statements fuel p blocks rest
      return (.filtered chain body, blocks, ← closes "endfilter" ending)
    | .define n ps => do
      let (body, blocks, ending) ← statements fuel { p with inMacro := true } blocks rest
      return (.define n ps body, blocks, ← closes "endmacro" ending)
    | .callWith call ps => do
      let (body, blocks, ending) ← statements fuel { p with inMacro := true } blocks rest
      return (.callWith call ps body, blocks, ← closes "endcall" ending)

/-- The statements for a test that fails, from the tag that ends those for one that holds. -/
def alternative : Nat → Surroundings → Blocks → Ending →
    Except TemplateError (List Stmt × Blocks × List Piece)
  | 0, _, _, _ => .error .badSource
  | fuel + 1, p, blocks, ending =>
    match ending with
    | some (tokens, rest) =>
      match keyword tokens with
      | "elif" => do
        let test ← inTag p.depth (do skip; expr) tokens
        let (yes, blocks, ending) ← statements fuel p blocks rest
        let (no, blocks, rest) ← alternative fuel p blocks ending
        return ([.branch test yes no], blocks, rest)
      | "else" => do
        inTag 0 (do skip) tokens
        let (no, blocks, ending) ← statements fuel p blocks rest
        return (no, blocks, ← closes "endif" ending)
      | _ => do return ([], blocks, ← closes "endif" ending)
    | none => .error .badSource

end

/-- Read a template. -/
def Document.read (source : List Char) : Except TemplateError Document := do
  let ps := pieces source
  let (body, blocks, ending) ← statements (2 * ps.length + 2) {} [] ps
  match ending with
  | none => return { body, blocks }
  | some _ => throw .badSource

end LiterateSite.Template
