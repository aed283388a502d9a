import LiterateSite.Template.Filter

/-!
# Functions

The functions that every template knows.

* `rangeOf`: the numbers of a range.
* `functionValue?`: what a function gives that needs nothing but its arguments.
-/

namespace LiterateSite.Template

/-- How many numbers a range has at most. -/
def rangeLimit : Nat := 100000

/-- The numbers from `first` on, in steps; before `last`, or after it if the steps go down. -/
def rangeFrom (first last step : Int) : Outcome :=
  let count :=
    if step > 0 then ((last - first + step - 1) / step).toNat
    else ((first - last - step - 1) / (-step)).toNat
  if count > rangeLimit then .error .invalidOperation
  else .ok (.lazy ((List.range count).map fun i => .int (first + step * Int.ofNat i)))

/-- The numbers of a range; a step of zero is refused. -/
def rangeOf (a : Arguments) : Outcome := do
  let low ← (← a.required 0).asInt
  let high ← a.optional 1 Value.asInt
  let step ← a.optional 2 Value.asInt
  a.atMost 3
  let step := step.getD 1
  if step == 0 then throw .invalidOperation
  match high with
  | some high => rangeFrom low high step
  | none => rangeFrom 0 low step

/-- A mapping of the entries of another one and of named arguments. -/
def dictOf (a : Arguments) : Outcome := do
  let (values, named) := a.splitNamed
  let start ←
    match Arguments.optional? values 0 with
    | some v => pairsOf v
    | none => pure []
  Arguments.atMost values 1
  return Value.mapOf (start ++ named)

/-- What a function gives that needs nothing but its arguments. -/
def functionValue? (name : List Char) (a : Arguments) : Option Outcome :=
  match String.ofList name with
  | "range" => some (rangeOf a)
  | "dict" => some (dictOf a)
  | "debug" =>
    some (match a with
      | [v] => .ok (.text v.pretty)
      | _ => .ok (.text (Value.stored a).pretty))
  | _ => none

/-- The entries that a mapping that is assigned to begins with. -/
def spaceOf (a : Arguments) : Except TemplateError Entries := do
  let entries ←
    match a.optional? 0 with
    | some v => pairsOf v
    | none => pure []
  a.atMost 1
  return entries.filter fun (key, _) => key.kind == .text

end LiterateSite.Template
