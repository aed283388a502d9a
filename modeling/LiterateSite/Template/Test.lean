import LiterateSite.Template.Argument

/-!
# Tests

* `filterNames`, `testNames`: the filters and tests that there are.
* `holds`: a test of a value.
-/

namespace LiterateSite.Template

open Number Text

/-- The names of the filters. -/
def filterNames : List String :=
  ["abs", "attr", "batch", "bool", "capitalize", "chain", "count", "d", "default", "dictsort", "e",
    "escape", "first", "float", "format", "groupby", "indent", "int", "items", "join", "last",
    "length", "lines", "list", "lower", "map", "max", "min", "pprint", "reject", "rejectattr",
    "replace", "reverse", "round", "safe", "select", "selectattr", "slice", "sort", "split",
    "string", "sum", "title", "trim", "unique", "upper", "zip"]

/-- The names of the tests. -/
def testNames : List String :=
  ["!=", "<", "<=", "==", ">", ">=", "boolean", "defined", "divisibleby", "endingwith", "eq",
    "equalto", "escaped", "even", "false", "filter", "float", "ge", "greaterthan", "gt", "in",
    "int", "integer", "iterable", "le", "lessthan", "lower", "lt", "mapping", "ne", "none",
    "number", "odd", "safe", "sameas", "sequence", "startingwith", "string", "test", "true",
    "undefined", "upper"]

/-- The tests of a value alone. -/
def simpleTest? (name : String) (v : Value) : Option (Except TemplateError Bool) :=
  let kinds : Option Bool :=
    match name with
    | "defined" => some !v.isUndefined
    | "undefined" => some v.isUndefined
    | "none" => some (v.kind == .none)
    | "boolean" => some (v.kind == .bool)
    | "number" => some (v.kind == .number)
    | "integer" | "int" => some (v.kind == .number && !v.isFloat)
    | "float" => some v.isFloat
    | "string" => some (v.kind == .text)
    | "sequence" => some (v.kind == .list)
    | "mapping" => some (v.kind == .map)
    | "iterable" => some v.items?.isSome
    | "safe" | "escaped" => some v.isSafe
    | "true" => some (v.kind == .bool && v.truth)
    | "false" => some (v.kind == .bool && !v.truth)
    | "odd" => some (v.int?.any (· % 2 != 0))
    | "even" => some (v.int?.any (· % 2 == 0))
    | _ => none
  match kinds, name with
  | some b, _ => some (.ok b)
  | none, "lower" => some do return (← v.asString).all isLower
  | none, "upper" => some do return (← v.asString).all isUpper
  | none, "filter" => some do return filterNames.contains (String.ofList (← v.asString))
  | none, "test" => some do return testNames.contains (String.ofList (← v.asString))
  | none, _ => none

/-- One number divides another without a rest. -/
def divides (v w : Value) : Bool :=
  match numbers? v w with
  | some (.ints n m) => m != 0 && n % m == 0
  | some (.floats x y) => remainder x y == 0
  | none => false

/-- Two values are one and the same. -/
def identical (v w : Value) : Bool := v.kind == w.kind && v.isFloat == w.isFloat && v.same w

/-- The tests of a value against another. -/
def pairTest? (name : String) (v w : Value) : Option (Except TemplateError Bool) :=
  match name with
  | "eq" | "equalto" | "==" => some (compareValues .eq v w)
  | "ne" | "!=" => some (compareValues .ne v w)
  | "lt" | "lessthan" | "<" => some (compareValues .lt v w)
  | "le" | "<=" => some (compareValues .le v w)
  | "gt" | "greaterthan" | ">" => some (compareValues .gt v w)
  | "ge" | ">=" => some (compareValues .ge v w)
  | "sameas" => some (.ok (identical v w))
  | "in" => some (.ok ((contains w v).toOption.getD false))
  | "startingwith" => some do return (← w.asText).isPrefixOf (← v.asText)
  | "endingwith" => some do return (← w.asText).isSuffixOf (← v.asText)
  | "divisibleby" => some (.ok (divides v w))
  | _ => none

/-- A test holds of a value. -/
def holds (name : List Char) (v : Value) (a : Arguments) : Except TemplateError Bool :=
  let name := String.ofList name
  if !testNames.contains name then .error .unknownTest
  else
    match simpleTest? name v with
    | some answer => do
      let b ← answer
      a.atMost 0
      return b
    | none => do
      let w ← a.required 0
      match pairTest? name v w with
      | some answer => do
        let b ← answer
        a.atMost 1
        return b
      | none => throw .unknownTest

end LiterateSite.Template
