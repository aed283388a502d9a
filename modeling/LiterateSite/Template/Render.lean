import LiterateSite.Template.Document
import LiterateSite.Template.Function
import LiterateSite.Template.State

/-!
# Rendering templates

* `Eval`: steps that change the state of a rendering and may fail.
* `Jump`, `Machine`: places that rendering goes to, and how it goes there.
* `evaluate`: the value of an expression.
* `run`: run statements.
* `render`: the text of a template, for the variables of a page.
-/

namespace LiterateSite.Template

/-- Steps that change the state of a rendering and may fail. -/
abbrev Eval := StateT State (Except TemplateError)

/-- A place that rendering goes to. -/
inductive Jump where
  /-- A block, as it is overridden where the rendering stands. -/
  | block (name : List Char)
  /-- The block that the current one overrides. -/
  | overridden
  /-- Another template, in place. -/
  | template (t : Document)
  /-- The body of a macro. -/
  | routine (r : Routine) (arguments : Arguments)
  /-- A loop once more, with other items. -/
  | again (body : LoopBody) (items : List Value)
  deriving Repr, Inhabited

/-- What rendering needs from outside: templates by name, and how to go to another place. -/
structure Machine where
  load : List Char → Except TemplateError Document
  jump : Jump → Eval Unit

/-- The ends of names that do not count. -/
def templateEndings : List String := [".j2", ".jinja2", ".jinja"]

/-- Templates by the ends of whose names values are written as markup. -/
def escapesIn (name : List Char) : Bool :=
  let ending := templateEndings.find? fun ending => ending.toList.isSuffixOf name
  let name := name.take (name.length - (ending.map String.length).getD 0)
  ["html", "htm", "xml"].contains (String.ofList (name.reverse.takeWhile (· != '.')).reverse)

namespace Eval

/-- Change the state. -/
def update (f : State → Except TemplateError State) : Eval Unit := fun st => do
  return ((), ← f st)

/-- Do steps in a scope within. -/
def inScope {α : Type} (f : Frame) (steps : Eval α) : Eval α := do
  update (·.push f)
  let x ← steps
  modify State.pop
  return x

/-- What steps write, as a value. -/
def captured (steps : Eval Unit) : Eval Value := do
  let st ← get
  set { st with reversed := [], silent := false }
  steps
  let inner ← get
  set { inner with reversed := st.reversed, silent := st.silent }
  let chars := inner.reversed.reverse
  return if inner.escaping then .safe chars else .text chars

end Eval

open Eval

/-! ## Expressions -/

/-- What a value gives when it is called. -/
def callValue (m : Machine) (v : Value) (a : Arguments) : Eval Value := do
  match v with
  | .routine r => captured (m.jump (.routine r a))
  | .function name =>
    match functionValue? name a with
    | some answer => answer
    | none =>
      let entries ← spaceOf a
      let st ← get
      set { st with spaces := st.spaces ++ [entries] }
      return .space st.spaces.length
  | _ => throw .invalidOperation

/-- Go through a loop once more, with the items of a value. -/
def loopAgain (m : Machine) (v : Value) : Eval Unit := do
  match ((← get).loop?).bind (·.recursion) with
  | none => throw .invalidOperation
  | some body => m.jump (.again body (← ((← get).resolve v).asItems))

/-- What a function of a name gives. -/
def callFunction (m : Machine) (name : List Char) (a : Arguments) : Eval Value := do
  if name == "super".toList then
    if a.isEmpty then captured (m.jump .overridden) else throw .invalidOperation
  else if name == State.loopName then
    match a with
    | [v] => captured (loopAgain m v)
    | _ => throw .invalidOperation
  else
    match (← get).lookup name with
    | some v => callValue m v a
    | none => throw .unknownFunction

/-- Whether a loop is asked about something else than the last time. -/
def loopChanged (place : LoopPlace) (a : Arguments) : Eval Value := do
  let st ← get
  let same :=
    match st.asked.lookup place.id with
    | some last => Value.sameItems last a
    | none => false
  set { st with asked := (place.id, a) :: st.asked.filter fun (id, _) => id != place.id }
  return .bool !same

/-- What a method of a loop gives. -/
def callLoop (place : LoopPlace) (name : List Char) (a : Arguments) : Eval Value :=
  match String.ofList name with
  | "changed" => loopChanged place a
  | "cycle" => return (a[place.index % a.length]?).getD .undefined
  | _ => throw .unknownMethod

/-- What a method of a value gives. -/
def callMethod (m : Machine) (v : Value) (name : List Char) (a : Arguments) : Eval Value := do
  match (← get).resolve v with
  | .loop place _ _ => callLoop place name a
  | v =>
    match v.attribute? name with
    | some w => callValue m w a
    | none => throw .unknownMethod

/-- An attribute or item that has been looked up in a value. -/
def foundIn (v : Value) (found : Option Value) : Eval Value :=
  match found with
  | some w => return w
  | none => if v.isUndefined then throw .undefinedValue else return .undefined

/-- The arguments of a call from those without a name and those with one. -/
def argumentsOf (args : List Expr) (both : List Value × Entries) : Arguments :=
  if args.all Expr.isPositional then both.1
  else
    match Value.mapOf both.2 with
    | .map _ entries => both.1 ++ [.map .named entries]
    | _ => both.1

mutual

/-- The value of an expression. -/
def evaluate (m : Machine) : Expr → Eval Value
  | .const v => return v
  | .var name => return ((← get).lookup name).getD .undefined
  | .list items => return .stored (← evaluateAll m items)
  | .map keys values => do
    let ks ← evaluateAll m keys
    let vs ← evaluateAll m values
    return Value.mapOf (ks.zip vs)
  | .attr e name => do
    let v := (← get).resolve (← evaluate m e)
    foundIn v (v.attribute? name)
  | .item e key => do
    let v := (← get).resolve (← evaluate m e)
    let key ← evaluate m key
    foundIn v (v.item? key)
  | .slice e first last step => do
    let v ← evaluate m e
    let a ← evaluate m first
    let b ← evaluate m last
    sliceOf v a b (← evaluate m step)
  | .neg e => do opposite (← evaluate m e)
  | .not e => return .bool !(← evaluate m e).truth
  | .both a b => do
    let v ← evaluate m a
    if v.truth then evaluate m b else return v
  | .either a b => do
    let v ← evaluate m a
    if v.truth then return v else evaluate m b
  | .binary op a b => do
    let v ← evaluate m a
    binaryValue op v (← evaluate m b)
  | .compare first ops others => do
    let v ← evaluate m first
    return .bool (← evaluateChain m v ops others)
  | .ifElse yes test no => do
    if (← evaluate m test).truth then evaluate m yes else evaluate m no
  | .filter name e args => do
    let v ← evaluate m e
    let a := argumentsOf args (← evaluateBoth m args)
    let st ← get
    applyFilter st.escaping name (st.resolve v) a
  | .test name e args => do
    let v ← evaluate m e
    let a := argumentsOf args (← evaluateBoth m args)
    return .bool (← holds name ((← get).resolve v) a)
  | .call (.var name) args => do callFunction m name (argumentsOf args (← evaluateBoth m args))
  | .call e args => do
    let v ← evaluate m e
    callValue m v (argumentsOf args (← evaluateBoth m args))
  | .method e name args => do
    let v ← evaluate m e
    callMethod m v name (argumentsOf args (← evaluateBoth m args))
  | .block name => captured do
    if (← get).parent.isNone then m.jump (.block name)
  | .named _ e | .spread e | .spreadNamed e => evaluate m e

def evaluateAll (m : Machine) : List Expr → Eval (List Value)
  | [] => return []
  | e :: rest => do
    let v ← evaluate m e
    return v :: (← evaluateAll m rest)

/-- Each comparison of a chain holds between its neighbours; what follows one that fails is not
evaluated. -/
def evaluateChain (m : Machine) (v : Value) : List Comparison → List Expr → Eval Bool
  | op :: ops, e :: rest => do
    let w ← evaluate m e
    let st ← get
    if ← compareValues op (st.resolve v) (st.resolve w) then evaluateChain m w ops rest
    else return false
  | _, _ => return true

/-- The arguments of a call without a name, and those with one. -/
def evaluateBoth (m : Machine) : List Expr → Eval (List Value × Entries)
  | [] => return ([], [])
  | .named name e :: rest => do
    let v ← evaluate m e
    let (values, named) ← evaluateBoth m rest
    return (values, (.text name, v) :: named)
  | .spread e :: rest => do
    let items ← (← evaluate m e).asItems
    let (values, named) ← evaluateBoth m rest
    return (items ++ values, named)
  | .spreadNamed e :: rest => do
    let entries ← pairsOf ((← get).resolve (← evaluate m e))
    let (values, named) ← evaluateBoth m rest
    return (values, entries ++ named)
  | e :: rest => do
    let v ← evaluate m e
    let (values, named) ← evaluateBoth m rest
    return (v :: values, named)

end

/-! ## Statements -/

mutual

/-- Give a value to a target. -/
def unpack (m : Machine) : Target → Value → Eval Unit
  | .name n, v => modify (·.assign n v)
  | .field subject n, v => do
    match ← evaluate m subject with
    | .space id =>
      modify fun st =>
        { st with spaces := st.spaces.modify id (Value.insertEntry (.text n) v) }
    | _ => throw .invalidOperation
  | .each ts, v => do
    match ((← get).resolve v).held? with
    | none => throw .cannotUnpack
    | some items => if items.length == ts.length then unpackAll m ts items else throw .cannotUnpack

/-- Give values to targets. -/
def unpackAll (m : Machine) : List Target → List Value → Eval Unit
  | t :: ts, v :: vs => do
    unpack m t v
    unpackAll m ts vs
  | _, _ => return ()

end

/-- The first of some templates that there is. -/
def firstTemplate (m : Machine) (ignoreMissing : Bool) :
    Bool → List Value → Except TemplateError (Option (List Char × Document))
  | tried, [] => if ignoreMissing || !tried then .ok none else .error .notFound
  | _, v :: rest =>
    match v.chars? with
    | none => .error .invalidOperation
    | some name =>
      match m.load name with
      | .ok t => .ok (some (name, t))
      | .error .notFound => firstTemplate m ignoreMissing true rest
      | .error e => .error e

/-- How much deeper an included template lies. -/
def includeCost : Nat := 10

/-- Write another template in place. Its blocks and those of the template around it do not mix. -/
def includeTemplate (m : Machine) (names : Value) (ignoreMissing : Bool) : Eval Unit := fun st =>
  let choices := ((st.resolve names).held?).getD [names]
  match firstTemplate m ignoreMissing false choices with
  | .error e => .error e
  | .ok none => .ok ((), st)
  | .ok (some (name, t)) =>
    match st.sink includeCost with
    | .error e => .error e
    | .ok inner =>
      let inner :=
        { inner with
          escaping := escapesIn name, blocks := [], parent := none, loaded := name :: inner.loaded }
      match m.jump (.template t) (inner.addBlocks t) with
      | .ok ((), out) =>
        .ok ((),
          { out with
            sunk := st.sunk, escaping := st.escaping, blocks := st.blocks, parent := st.parent
            extended := st.extended, silent := st.silent })
      | .error _ => .error .badInclude

/-- Begin to extend a template. -/
def extendTemplate (m : Machine) (name : Value) : Eval Unit := do
  let st ← get
  match st.parent, name.chars? with
  | some _, _ => throw .invalidOperation
  | none, none => throw .invalidOperation
  | none, some name =>
    if st.extended.contains name then throw .invalidOperation
    let t ← m.load name
    let st := st.addBlocks t
    set { st with
      parent := some t, silent := true, extended := name :: st.extended
      loaded := name :: st.loaded }

/-- Apply filters to a value. -/
def applyFilters (m : Machine) (filters : FilterChain) (v : Value) : Eval Value :=
  filters.foldlM (fun v (name, args) => do
    let a := argumentsOf args (← evaluateBoth m args)
    applyFilter (← get).escaping name v a) v

/-- The items that pass the test of a loop. -/
def loopItems (m : Machine) (target : Target) (test : Option Expr) (items : List Value) :
    Eval (List Value) := do
  match test with
  | none => return items
  | some test =>
    let place : LoopFrame := { place := .undefined, isVisible := false, depth := 0, recursion := none }
    inScope { loop := some place } <| items.filterM fun item => do
      unpack m target item
      return (← evaluate m test).truth

/-- Go through the items of a loop. -/
def throughLoop (m : Machine) (target : Target) (recursion : Option LoopBody)
    (items : List Value) (body : Eval Unit) : Eval Unit := do
  let st ← get
  let depth := st.loopDepth
  set { st with loops := st.loops + 1 }
  let all := items.toArray
  let placeOf := fun (i : Nat) =>
    Value.loop { id := st.loops, index := i, length := all.size, depth }
      (if i == 0 then .undefined else (all[i - 1]?).getD .undefined)
      ((all[i + 1]?).getD .undefined)
  let frame : LoopFrame := { place := placeOf 0, isVisible := true, depth, recursion }
  inScope { loop := some frame } <| items.zipIdx.forM fun (item, i) => do
    modify (·.standAt (placeOf i))
    unpack m target item
    body

/-- Write the text of another template apart, and get what it assigns from its scope. -/
def importing (m : Machine) (source : Expr) (found : State → List Char → Value) : Eval Value :=
  inScope {} do
    let text ← captured do includeTemplate m (← evaluate m source) false
    return found (← get) text.show

/-- What the innermost scope assigns, with the text that has been written. -/
def moduleOf (st : State) (text : List Char) : Value :=
  match Value.mapOf (((st.frames.head?.map (·.locals)).getD []).map fun (name, v) => (.text name, v)) with
  | .map _ entries => .map (.module text) entries
  | v => v

/-- A value where escaping is switched on, or off. -/
def escapingOf (v : Value) : Except TemplateError Bool :=
  match v.chars? with
  | some mode =>
    if mode == "html".toList then .ok true
    else if mode == "none".toList then .ok false
    else .error .invalidOperation
  | none => .ok (v.same (.bool true))

/-- A call with the macro of the statements within it. -/
def withCaller (call : Expr) (caller : Value) : Expr :=
  let added : Expr := .named callerName (.const caller)
  match call with
  | .call f args => .call f (args ++ [added])
  | .method e n args => .method e n (args ++ [added])
  | e => e

mutual

/-- Run a statement. -/
def runOne (m : Machine) : Stmt → Eval Unit
  | .text chars => modify (·.write chars)
  | .print e => do
    let v ← evaluate m e
    modify fun st => st.print (st.resolve v)
  | .branch test yes no => do
    if (← evaluate m test).truth then run m yes else run m no
  | .loop target source test recursive body otherwise => do
    let v ← evaluate m source
    let items ← loopItems m target test (← ((← get).resolve v).asItems)
    let recursion : Option LoopBody := if recursive then some { target, body, otherwise } else none
    throughLoop m target recursion items (run m body)
    if items.isEmpty then run m otherwise
  | .assign target e => do unpack m target (← evaluate m e)
  | .capture target filters body => do
    let v ← captured (run m body)
    unpack m target (← applyFilters m filters v)
  | .scope targets values body => inScope {} do
    (targets.zip values).forM fun (t, e) => do unpack m t (← evaluate m e)
    run m body
  | .block name => do
    let st ← get
    if st.parent.isNone && !st.silent then m.jump (.block name)
  | .extend e => do extendTemplate m (← evaluate m e)
  | .include e ignoreMissing => do includeTemplate m (← evaluate m e) ignoreMissing
  | .escaping on body => do
    let v ← evaluate m on
    let escaping ← escapingOf v
    let before := (← get).escaping
    modify ({ · with escaping })
    run m body
    modify ({ · with escaping := before })
  | .filtered filters body => do
    let v ← applyFilters m filters (← captured (run m body))
    modify (·.print v)
  | .evaluate e => do
    let _ ← evaluate m e
  | .define name ps body => do
    let (v, st) := (← get).addMacro name ps body
    set (st.assign name v)
  | .callWith call ps body => do
    let (caller, st) := (← get).addMacro callerName ps body
    set st
    let v ← evaluate m (withCaller call caller)
    modify (·.print v)
  | .importAll source target => do
    unpack m target (← importing m source moduleOf)
  | .importSome source names => do
    let found ← importing m source fun st _ =>
      .stored (names.map fun (name, _) => (st.lookup name).getD .undefined)
    match found with
    | .list _ values =>
      (names.zip values).reverse.forM fun ((_, here), v) => modify (·.assign here v)
    | _ => return ()

/-- Run statements in order. -/
def run (m : Machine) : List Stmt → Eval Unit
  | [] => return ()
  | s :: rest => do
    runOne m s
    run m rest

end

/-! ## Other places -/

/-- Run the statements of a template, and then those of the templates that it extends. `fuel` bounds
their number. -/
def runTemplate (m : Machine) : Nat → Document → Eval Unit
  | 0, _ => throw .invalidOperation
  | fuel + 1, t => do
    let silent := (← get).silent
    modify ({ · with parent := none })
    run m t.body
    let st ← get
    match st.parent with
    | none => return ()
    | some parent =>
      set { st with parent := none, silent }
      runTemplate m fuel parent

/-- The values of the parameters of a macro that a call gives, in their order; undefined where it
gives none. -/
def givenValues (r : Routine) (a : Arguments) : Except TemplateError (List Value) :=
  let (values, named) := a.splitNamed
  let known := fun (key : Value) =>
    (r.usesCaller && key.same (.text callerName))
      || (r.parameters.drop values.length).any fun name => key.same (.text name)
  if values.length > r.parameters.length then .error .tooManyArguments
  else if named.all fun (key, _) => known key then
    .ok (r.parameters.mapIdx fun i name =>
      (values[i]?).getD ((Value.entry? named (.text name)).getD .undefined))
  else .error .tooManyArguments

/-- Give values to the parameters of a macro, last one first. One that is undefined gets the value
that its parameter has by default; the defaults are those of the last parameters, last one first. -/
def assignParameters (m : Machine) : List (List Char × Value) → List Expr → Eval Unit
  | [], _ => return ()
  | (name, v) :: rest, [] => do
    modify (·.assign name v)
    assignParameters m rest []
  | (name, v) :: rest, e :: defaults => do
    let v ← if v.isUndefined then evaluate m e else pure v
    modify (·.assign name v)
    assignParameters m rest defaults

/-- How much deeper the body of a macro lies. -/
def macroCost : Nat := 4

/-- Run the body of a macro. It sees its arguments, what it has taken from around it, and the
variables of the page. -/
def runMacro (m : Machine) (r : Routine) (a : Arguments) : Eval Unit := do
  let st ← get
  match st.macros[r.id]? with
  | none => throw .invalidOperation
  | some found =>
    let given ← givenValues r a
    let caller :=
      if r.usesCaller then
        [(callerName, (Value.entry? a.splitNamed.2 (.text callerName)).getD .undefined)]
      else []
    let inner : State :=
      { st with
        frames := [{ locals := caller, backdrop := .closure found.closure }, { backdrop := .page }]
        sunk := st.depth, blocks := [], current := none, parent := none, extended := [] }
    set inner
    update (·.sink macroCost)
    assignParameters m (r.parameters.zip given).reverse found.parameters.defaults.reverse
    run m found.body
    modify ({ · with
      frames := st.frames, sunk := st.sunk, blocks := st.blocks, current := st.current
      parent := st.parent, extended := st.extended, escaping := st.escaping })

/-- Run the body of a block that stands where the rendering stands. -/
def runBlock (m : Machine) (name : List Char) : Eval Unit := do
  let st ← get
  match st.blocks.lookup name with
  | none => throw .unknownBlock
  | some stack =>
    set { st with current := some name, parent := none }
    inScope {} (run m ((stack.bodies[stack.depth]?).getD []))
    modify ({ · with current := st.current, parent := st.parent })

/-- Run the body of the block that the current one overrides. -/
def runOverridden (m : Machine) : Eval Unit := do
  let st ← get
  match st.current with
  | none => throw .invalidOperation
  | some name =>
    match st.blocks.lookup name with
    | none => throw .invalidOperation
    | some stack =>
      match stack.bodies[stack.depth + 1]? with
      | none => throw .invalidOperation
      | some body =>
        set (st.setBlockDepth name (stack.depth + 1))
        inScope {} fun inner =>
          match run m body inner with
          | .ok out => .ok out
          | .error _ => .error .badBlock
        modify (·.setBlockDepth name stack.depth)

/-- Go to a place; `fuel` bounds how deep places lie within each other. -/
def jump (load : List Char → Except TemplateError Document) : Nat → Jump → Eval Unit
  | 0, _ => throw .invalidOperation
  | fuel + 1, place =>
    let m : Machine := ⟨load, jump load fuel⟩
    match place with
    | .block name => runBlock m name
    | .overridden => runOverridden m
    | .routine r a => runMacro m r a
    | .template t => runTemplate m (fuel + 1) t
    | .again body items => do
      throughLoop m body.target (some body) items (run m body.body)
      if items.isEmpty then run m body.otherwise

/-- More places than can lie within each other: each lies in a scope of its own. -/
def placeLimit : Nat := State.scopeLimit + 2

/-- A template has been rendered. -/
structure Rendering where
  text : List Char
  /-- The names of the templates that it took, its own and those that it led to. -/
  loaded : List (List Char)
  deriving DecidableEq, Repr, Inhabited

/-- Render a template for the variables of a page. -/
def rendering (load : List Char → Except TemplateError Document) (name : List Char)
    (page : Scope) : Except TemplateError Rendering := do
  let t ← load name
  let st : State :=
    { page, frames := [{ backdrop := .page }], escaping := escapesIn name, loaded := [name] }
  let ((), st) ← jump load placeLimit (.template t) (st.addBlocks t)
  return { text := st.reversed.reverse, loaded := st.loaded }

/-- The text of a template for the variables of a page. -/
def render (load : List Char → Except TemplateError Document) (name : List Char)
    (page : Scope) : Except TemplateError (List Char) := do
  return (← rendering load name page).text

end LiterateSite.Template
