import LiterateSite.Template.Filter
import LiterateSite.Template.Statement

/-!
# The state of a rendering

* `Frame`: the variables of one scope.
* `State`: the scopes, the text written so far, the blocks of a template and of those that it
  extends, and what values refer to.
* `State.lookup`, `State.assign`: variables.
* `State.push`, `State.sink`: a scope within, and a template within; neither may lie too deep.
-/

namespace LiterateSite.Template

/-- Variables with their values. -/
abbrev Scope := List (List Char × Value)

/-- Variables that lie behind those of a scope. -/
inductive Backdrop where
  | nothing
  /-- The variables of the page. -/
  | page
  /-- What a macro has taken from around it. -/
  | closure (id : Nat)
  deriving DecidableEq, Repr, Inhabited

/-- What a loop does with each item. -/
structure LoopBody where
  target : Target
  body : List Stmt
  otherwise : List Stmt
  deriving Repr, Inhabited

/-- A loop that is being gone through. -/
structure LoopFrame where
  /-- Where the loop stands, as a value. -/
  place : Value
  /-- The variable `loop` stands for it. -/
  isVisible : Bool
  depth : Nat
  /-- What it does with further items, if it is recursive. -/
  recursion : Option LoopBody
  deriving Repr, Inhabited

/-- The variables of one scope. -/
structure Frame where
  locals : Scope := []
  loop : Option LoopFrame := none
  backdrop : Backdrop := .nothing
  /-- Where the macros that are defined here find what is assigned here. -/
  closure : Option Nat := none
  deriving Repr, Inhabited

/-- The bodies of a block, of which each overrides those after it, and how many are overridden where
the rendering stands. -/
structure BlockStack where
  bodies : List (List Stmt)
  depth : Nat := 0
  deriving Repr, Inhabited

/-- A macro. -/
structure Macro where
  parameters : Parameters
  body : List Stmt
  usesCaller : Bool
  closure : Nat
  deriving Repr, Inhabited

/-- The state of a rendering. -/
structure State where
  /-- The variables of the page. -/
  page : Scope
  /-- The scopes, innermost first. -/
  frames : List Frame
  /-- How deep the scopes lie within templates and macros around them. -/
  sunk : Nat := 0
  /-- The text written, last character first. -/
  reversed : List Char := []
  /-- Nothing is written: a template that extends another writes through its blocks only. -/
  silent : Bool := false
  /-- Values are written as markup. -/
  escaping : Bool := true
  /-- The blocks by name. -/
  blocks : List (List Char × BlockStack) := []
  /-- The block being written. -/
  current : Option (List Char) := none
  /-- The template that is extended. -/
  parent : Option Document := none
  /-- The names of the templates extended so far. -/
  extended : List (List Char) := []
  /-- The names of the templates loaded so far, last one first. -/
  loaded : List (List Char) := []
  /-- The macros, by their numbers. -/
  macros : List Macro := []
  /-- What macros have taken from around them. -/
  closures : List Scope := []
  /-- Mappings that are assigned to. -/
  spaces : List Entries := []
  /-- How many loops there have been. -/
  loops : Nat := 0
  /-- What each loop has last been asked about, to tell whether it changes. -/
  asked : List (Nat × List Value) := []
  deriving Repr, Inhabited

namespace State

def write (st : State) (chars : List Char) : State :=
  if st.silent then st else { st with reversed := chars.reverseAux st.reversed }

/-- Write a value. -/
def print (st : State) (v : Value) : State := st.write (v.written st.escaping)

/-! ## Variables -/

/-- The name of the variable that tells where a loop stands. -/
def loopName : List Char := "loop".toList

/-- The functions that every template knows. -/
def functionNames : List String := ["debug", "dict", "namespace", "range"]

/-- The value of a variable behind a scope. -/
def behind (st : State) (b : Backdrop) (name : List Char) : Option Value :=
  match b with
  | .nothing => none
  | .page => st.page.lookup name
  | .closure id => (st.closures[id]?).bind (·.lookup name)

/-- The value of a variable in one scope. -/
def lookupIn (st : State) (name : List Char) (f : Frame) : Option Value :=
  match f.locals.lookup name with
  | some v => some v
  | none =>
    match f.loop.filter fun l => l.isVisible && name == loopName with
    | some l => some l.place
    | none => st.behind f.backdrop name

/-- The value of a variable. -/
def lookup (st : State) (name : List Char) : Option Value :=
  match st.frames.findSome? (st.lookupIn name) with
  | some v => some v
  | none => if functionNames.contains (String.ofList name) then some (.function name) else none

/-- Give a value to a name in a scope. -/
def bind (name : List Char) (v : Value) (scope : Scope) : Scope :=
  (name, v) :: scope.filter fun (n, _) => n != name

/-- Give a value to a variable of the innermost scope, and of the macros that are defined there. -/
def assign (st : State) (name : List Char) (v : Value) : State :=
  match st.frames with
  | [] => { st with frames := [{ locals := [(name, v)] }] }
  | f :: outer =>
    { st with
      frames := { f with locals := bind name v f.locals } :: outer
      closures :=
        match f.closure with
        | some id => st.closures.modify id (bind name v)
        | none => st.closures }

/-- A mapping that is assigned to, as it is now. -/
def resolve (st : State) (v : Value) : Value :=
  match v with
  | .space id => .map .plain ((st.spaces[id]?).getD [])
  | v => v

/-! ## Depth -/

/-- How deep scopes may lie within each other. -/
def scopeLimit : Nat := 500

/-- How deep the innermost scope lies. -/
def depth (st : State) : Nat := st.sunk + st.frames.length

/-- Begin a scope. -/
def push (st : State) (f : Frame) : Except TemplateError State :=
  if st.depth > scopeLimit then .error .invalidOperation
  else .ok { st with frames := f :: st.frames }

def pop (st : State) : State := { st with frames := st.frames.drop 1 }

/-- Go so much deeper. -/
def sink (st : State) (steps : Nat) : Except TemplateError State :=
  let st := { st with sunk := st.sunk + steps }
  if st.depth > scopeLimit then .error .invalidOperation else .ok st

/-! ## Loops -/

/-- The innermost loop. -/
def loop? (st : State) : Option LoopFrame := st.frames.findSome? (·.loop)

/-- How many recursive loops a loop that begins here lies within. -/
def loopDepth (st : State) : Nat :=
  match st.loop? with
  | some l => if l.recursion.isSome then l.depth + 1 else 0
  | none => 0

/-- Note where the innermost scope's loop stands. -/
def standAt (st : State) (place : Value) : State :=
  match st.frames with
  | [] => st
  | f :: outer =>
    { st with frames := { f with loop := f.loop.map fun l => { l with place } } :: outer }

/-! ## Macros -/

/-- The number of the innermost scope's closure; it is made if there is none. -/
def openClosure (st : State) : Nat × State :=
  match st.frames with
  | [] => (st.closures.length, { st with closures := st.closures ++ [[]] })
  | f :: outer =>
    match f.closure with
    | some id => (id, st)
    | none =>
      (st.closures.length,
        { st with
          frames := { f with closure := some st.closures.length } :: outer
          closures := st.closures ++ [[]] })

/-- Take the values of names into a closure, those that it has apart. -/
def enclose (st : State) (id : Nat) (names : List (List Char)) : State :=
  names.foldl (fun st name =>
    let v := (st.lookup name).getD .undefined
    { st with
      closures := st.closures.modify id fun scope =>
        if (scope.lookup name).isSome then scope else (name, v) :: scope }) st

/-- Add a macro: its value and the state that holds it. -/
def addMacro (st : State) (name : List Char) (ps : Parameters) (body : List Stmt) : Value × State :=
  let free := Stmt.freeNames ps body
  let (closure, st) := st.openClosure
  let st := st.enclose closure (free.filter (· != callerName))
  let usesCaller := free.contains callerName
  (.routine { id := st.macros.length, name, parameters := ps.names, usesCaller },
    { st with macros := st.macros ++ [{ parameters := ps, body, usesCaller, closure }] })

/-! ## Blocks -/

/-- Add the blocks of a template, below those that are there. -/
def addBlocks (st : State) (t : Document) : State :=
  { st with blocks := t.blocks.foldl (fun acc (name, body) =>
      if acc.any fun (known, _) => known == name then
        acc.map fun (known, stack) =>
          if known == name then (known, { stack with bodies := stack.bodies ++ [body] })
          else (known, stack)
      else acc ++ [(name, { bodies := [body] })]) st.blocks }

/-- Go to the bodies of a block that so many others override. -/
def setBlockDepth (st : State) (name : List Char) (depth : Nat) : State :=
  { st with blocks := st.blocks.map fun (known, stack) =>
      if known == name then (known, { stack with depth }) else (known, stack) }

end State

end LiterateSite.Template
