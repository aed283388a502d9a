import LiterateSite.Template.Operation

/-!
# Template statements

* `Expr`: expressions, with their values known when they are evaluated.
* `Target`: what a value is given to.
* `Stmt`: statements.
* `Document`: the statements of a template and its blocks.
* `Stmt.freeNames`: the names that a macro takes from around it.
-/

namespace LiterateSite.Template

/-- Expressions. -/
inductive Expr where
  | const (v : Value)
  | var (name : List Char)
  | list (items : List Expr)
  | map (keys values : List Expr)
  | attr (subject : Expr) (name : List Char)
  | item (subject key : Expr)
  /-- A part between two bounds, each of which may be none, in steps. -/
  | slice (subject first last step : Expr)
  | neg (e : Expr)
  | not (e : Expr)
  | both (a b : Expr)
  | either (a b : Expr)
  | binary (op : BinaryOp) (a b : Expr)
  /-- A chain of comparisons, each between neighbours. -/
  | compare (first : Expr) (comparisons : List Comparison) (others : List Expr)
  | ifElse (yes test no : Expr)
  | filter (name : List Char) (subject : Expr) (arguments : List Expr)
  | test (name : List Char) (subject : Expr) (arguments : List Expr)
  | call (callee : Expr) (arguments : List Expr)
  | method (subject : Expr) (name : List Char) (arguments : List Expr)
  /-- What a block of the template writes. -/
  | block (name : List Char)
  /-- An argument with a name. -/
  | named (name : List Char) (e : Expr)
  /-- The items of a list as arguments. -/
  | spread (e : Expr)
  /-- The entries of a mapping as arguments with names. -/
  | spreadNamed (e : Expr)
  deriving Repr, Inhabited

/-- What a value is given to: a name, the fields of a mapping, or one target for each item. -/
inductive Target where
  | name (name : List Char)
  | field (subject : Expr) (name : List Char)
  | each (targets : List Target)
  deriving Repr, Inhabited

/-- The parameters of a macro, the last of which have values by default. -/
structure Parameters where
  names : List (List Char) := []
  defaults : List Expr := []
  deriving Repr, Inhabited

/-- Filters with their arguments, one applied to what another gives. -/
abbrev FilterChain := List (List Char × List Expr)

/-- Statements. -/
inductive Stmt where
  | text (chars : List Char)
  | print (e : Expr)
  | branch (test : Expr) (yes no : List Stmt)
  /-- A loop over the items that pass a test; `otherwise` is for no items. -/
  | loop (target : Target) (source : Expr) (test : Option Expr) (recursive : Bool)
      (body otherwise : List Stmt)
  | assign (target : Target) (e : Expr)
  | capture (target : Target) (filters : FilterChain) (body : List Stmt)
  | scope (targets : List Target) (values : List Expr) (body : List Stmt)
  /-- Where the block of a name stands. -/
  | block (name : List Char)
  | extend (parent : Expr)
  | «include» (name : Expr) (ignoreMissing : Bool)
  | escaping (on : Expr) (body : List Stmt)
  | filtered (filters : FilterChain) (body : List Stmt)
  | evaluate (e : Expr)
  | define (name : List Char) (parameters : Parameters) (body : List Stmt)
  /-- A call with a macro of the statements within it. -/
  | callWith (call : Expr) (parameters : Parameters) (body : List Stmt)
  /-- What another template assigns becomes a mapping. -/
  | importAll (source : Expr) (target : Target)
  /-- Some of what another template assigns, each with its name here. -/
  | importSome (source : Expr) (names : List (List Char × List Char))
  deriving Repr, Inhabited

/-- A template. -/
structure Document where
  body : List Stmt
  /-- The blocks by name. -/
  blocks : List (List Char × List Stmt)
  deriving Repr, Inhabited

/-! ## Names from around a macro -/

/-- The name that the macro within a call goes by. -/
def callerName : List Char := "caller".toList

mutual

/-- The variables of an expression. -/
def Expr.names : Expr → List (List Char)
  | .const _ | .block _ => []
  | .var name => [name]
  | .list items => namesOfAll items
  | .map keys values => namesOfAll keys ++ namesOfAll values
  | .attr e _ | .neg e | .not e | .named _ e | .spread e | .spreadNamed e => e.names
  | .item e key => e.names ++ key.names
  | .slice e first last step => e.names ++ first.names ++ last.names ++ step.names
  | .both a b | .either a b | .binary _ a b => a.names ++ b.names
  | .compare first _ others => first.names ++ namesOfAll others
  | .ifElse yes test no => test.names ++ yes.names ++ no.names
  | .filter _ e args | .test _ e args | .call e args | .method e _ args =>
    e.names ++ namesOfAll args

def namesOfAll : List Expr → List (List Char)
  | [] => []
  | e :: rest => e.names ++ namesOfAll rest

end

/-- The names that a target gives a value to, and the variables that it uses. -/
def Target.assigned : Target → List (List Char)
  | .name n => [n]
  | .field _ _ => []
  | .each [] => []
  | .each (t :: rest) => t.assigned ++ (Target.each rest).assigned

/-- Names that are known and names that are missing so far. -/
structure Known where
  known : List (List Char)
  missing : List (List Char) := []
  deriving Repr, Inhabited

namespace Known

def learn (k : Known) (names : List (List Char)) : Known := { k with known := names ++ k.known }

/-- Use names: those that are not known are missing. -/
def use (k : Known) (names : List (List Char)) : Known :=
  names.foldl (fun k n =>
    if k.known.contains n || k.missing.contains n then k
    else { k with missing := k.missing ++ [n] }) k

/-- Forget what has been learnt within. -/
def within (outer inner : Known) : Known := { inner with known := outer.known }

def useFilters (k : Known) (filters : FilterChain) : Known :=
  filters.foldl (fun k (_, args) => k.use (namesOfAll args)) k

end Known

mutual

/-- The names that a statement takes from around it. -/
def Stmt.freeFrom (k : Known) : Stmt → Known
  | .text _ | .extend _ | .include _ _ | .block _ => k
  | .print e | .evaluate e => k.use e.names
  | .branch test yes no =>
    let k := k.use test.names
    let k := k.within (freeFromAll k yes)
    k.within (freeFromAll k no)
  | .loop target source test _ body otherwise =>
    let inner := (k.learn ["loop".toList]).use source.names
    let inner := (inner.learn target.assigned).use ((test.map Expr.names).getD [])
    let k := k.within (freeFromAll inner body)
    k.within (freeFromAll k otherwise)
  | .assign target e => (k.learn target.assigned).use e.names
  | .capture target filters body =>
    let k := k.learn target.assigned
    (k.within (freeFromAll k body)).useFilters filters
  | .scope targets values body =>
    let inner := (k.learn (targets.flatMap Target.assigned)).use (namesOfAll values)
    k.within (freeFromAll inner body)
  | .escaping on body =>
    let k := k.use on.names
    k.within (freeFromAll k body)
  | .filtered filters body => (k.within (freeFromAll k body)).useFilters filters
  | .define name ps body =>
    let k := k.learn (name :: callerName :: ps.names)
    freeFromAll (k.use (namesOfAll ps.defaults)) body
  | .callWith call ps body =>
    let k := (k.use call.names).learn (callerName :: ps.names)
    freeFromAll (k.use (namesOfAll ps.defaults)) body
  | .importAll _ target => k.learn target.assigned
  | .importSome _ names => k.learn (names.map (·.2))

def freeFromAll (k : Known) : List Stmt → Known
  | [] => k
  | s :: rest => freeFromAll (s.freeFrom k) rest

end

/-- The names that a macro takes from around it. -/
def Stmt.freeNames (ps : Parameters) (body : List Stmt) : List (List Char) :=
  (freeFromAll ((Known.mk ps.names []).use (namesOfAll ps.defaults)) body).missing

end LiterateSite.Template
