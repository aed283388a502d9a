import LiterateSite.Template.Operation

/-!
# Arguments

What tests, filters and functions are called with. The named arguments of a call are its last
argument: a mapping, which stands where a further value by position would stand.

* `Arguments`: the arguments of a call.
* `Value.asText`, `Value.asString`, `Value.asInt`, `Value.asBool`: what a parameter of a kind takes.
* `Arguments.required`, `Arguments.optional?`, `Arguments.atMost`: arguments by position.
* `Arguments.splitNamed`, `namedArgument?`: arguments by name.
-/

namespace LiterateSite.Template

/-- The arguments of a call. -/
abbrev Arguments := List Value

namespace Value

/-- Any value as a text; named arguments are none. -/
def asText (v : Value) : Except TemplateError (List Char) :=
  match v with
  | .map .named _ => .error .invalidOperation
  | v => .ok v.show

/-- A value that is a text. -/
def asString (v : Value) : Except TemplateError (List Char) :=
  match v.chars? with
  | some chars => .ok chars
  | Option.none => .error .invalidOperation

/-- A value that is an integer. -/
def asInt (v : Value) : Except TemplateError Int :=
  match v.int? with
  | some n => .ok n
  | Option.none => .error .invalidOperation

/-- A value that is an integer and not negative. -/
def asNat (v : Value) : Except TemplateError Nat := repetitions v

/-- A value that is true or false. -/
def asBool (v : Value) : Except TemplateError Bool :=
  match v with
  | .bool b => .ok b
  | _ => .error .invalidOperation

/-- The items that a value is gone through by. -/
def asItems (v : Value) : Except TemplateError (List Value) :=
  match v.items? with
  | some items => .ok items
  | Option.none => .error .invalidOperation

end Value

namespace Arguments

/-- An argument that has to be there. -/
def required (a : Arguments) (i : Nat) : Except TemplateError Value :=
  match a[i]? with
  | some v => .ok v
  | none => .error .missingArgument

/-- An argument that may be left out, or be nothing. -/
def optional? (a : Arguments) (i : Nat) : Option Value := a[i]?.filter fun v => !v.isNothing

/-- An argument of a kind that may be left out. -/
def optional {α : Type} (a : Arguments) (i : Nat) (read : Value → Except TemplateError α) :
    Except TemplateError (Option α) :=
  match a.optional? i with
  | some v => do return some (← read v)
  | none => .ok none

/-- There are no more arguments than so many. -/
def atMost (a : Arguments) (n : Nat) : Except TemplateError Unit :=
  if a.length > n then .error .tooManyArguments else .ok ()

/-- The arguments by position, and those by name. -/
def splitNamed (a : Arguments) : List Value × Entries :=
  match a.getLast? with
  | some (.map .named entries) => (a.dropLast, entries)
  | _ => (a, [])

end Arguments

/-- A named argument, if there is one that is not nothing. -/
def namedArgument? (entries : Entries) (name : String) : Option Value :=
  (Value.entry? entries (Value.ofString name)).filter fun v => !v.isNothing

/-- A named argument of a kind. -/
def namedArgument {α : Type} (entries : Entries) (name : String)
    (read : Value → Except TemplateError α) : Except TemplateError (Option α) :=
  match namedArgument? entries name with
  | some v => do return some (← read v)
  | none => .ok none

/-- A named argument that is true or false; false if it is left out. -/
def namedFlag (entries : Entries) (name : String) : Except TemplateError Bool := do
  return (← namedArgument entries name Value.asBool).getD false

/-- All named arguments have one of these names. -/
def onlyNamed (entries : Entries) (names : List String) : Except TemplateError Unit :=
  if entries.all fun (key, _) => names.any fun name => key.same (Value.ofString name) then .ok ()
  else .error .tooManyArguments

end LiterateSite.Template
