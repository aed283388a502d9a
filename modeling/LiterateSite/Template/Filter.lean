import LiterateSite.Template.Format
import LiterateSite.Template.Test
import LiterateSite.Template.Wording
import LiterateSite.Text.Line

/-!
# Filters

* `numberFilter?`, `textFilter?`, `partFilter?`, `gatherFilter?`: the filters of numbers, of texts,
  for what is in a value, and of several items.
* `applyFilter`: a filter applied to a value.
-/

namespace LiterateSite.Template

open Number Text

/-- What a filter gives. -/
abbrev Outcome := Except TemplateError Value

/-! ## Numbers -/

/-- The nearest integer of 128 bits that is not further from zero. -/
def saturated (x : Float) : Int :=
  match fraction x with
  | .invalid => 0
  | .infinite negative => if negative then -Int.pow 2 127 else Int.pow 2 127 - 1
  | .finite .. => max (-Int.pow 2 127) (min (Int.pow 2 127 - 1) ((truncated? x).getD 0))

/-- A value as an integer. -/
def toInteger (v : Value) : Outcome :=
  match v with
  | .undefined | .none => .ok (.int 0)
  | .bool b => .ok (.int (if b then 1 else 0))
  | .int n => .ok (.int n)
  | .float x => .ok (.int (saturated x))
  | .text chars | .safe chars =>
    match (readInt? chars).filter fits, read? chars with
    | some n, _ => .ok (.int n)
    | none, some x => .ok (.int (saturated x))
    | none, none => .error .invalidOperation
  | _ => .error .invalidOperation

/-- A value as a floating-point number. -/
def toFloating (v : Value) : Outcome :=
  match v with
  | .undefined | .none => .ok (.float 0)
  | .text chars | .safe chars =>
    match read? chars with
    | some x => .ok (.float x)
    | none => .error .invalidOperation
  | v =>
    match v.float? with
    | some x => .ok (.float x)
    | none => .error .invalidOperation

/-- The filters of numbers. -/
def numberFilter? (name : String) (v : Value) (a : Arguments) : Option Outcome :=
  match name with
  | "int" => some do
    let n ← toInteger v
    a.atMost 0
    return n
  | "float" => some do
    let x ← toFloating v
    a.atMost 0
    return x
  | "abs" => some do
    a.atMost 0
    match v with
    | .int n => return .int n.natAbs
    | .float x => return .float x.abs
    | _ => throw .invalidOperation
  | "round" => some do
    let places ← a.optional 0 Value.asInt
    a.atMost 1
    match v with
    | .int n => return .int n
    | .float x => return .float (roundTo x (places.getD 0))
    | _ => throw .invalidOperation
  | "bool" => some do
    a.atMost 0
    return .bool v.truth
  | _ => none

/-! ## Texts -/

/-- A text that is markup if the value was. -/
def textLike (v : Value) (chars : List Char) : Value :=
  if v.isSafe then .safe chars else .text chars

/-- The texts between separators as a list. -/
def textList (parts : List (List Char)) : Value := .stored (parts.map .text)

/-- Put texts together. Where one of them is markup, the others become markup. -/
def joined (escaping : Bool) (joiner : Value) (items : List Value) : Value :=
  if escaping && (joiner.isSafe || items.any Value.isSafe) then
    .safe ((items.map Value.escaped).intersperse joiner.escaped).flatten
  else .text ((items.map Value.show).intersperse joiner.show).flatten

/-- Replace a text by another. Where one of them is markup, the others become markup. -/
def replaced (escaping : Bool) (v old new : Value) : Value :=
  let length := 6 * v.show.length + 1
  if escaping && (v.isSafe || old.isSafe || new.isSafe) then
    .safe (replaceAll old.escaped new.escaped length v.escaped)
  else textLike v (replaceAll old.show new.show length v.show)

/-- A value that becomes markup if it is a text. -/
def protectedText (v : Value) : Value :=
  match v with
  | .text chars => .safe (escape chars)
  | v => v

/-- The arguments of a format that is markup. -/
def protectedArguments (a : Arguments) : Arguments :=
  a.map fun v =>
    match v with
    | .map .named entries => .map .named (entries.map fun (key, w) => (key, protectedText w))
    | v => protectedText v

/-- Filters that change a text. -/
def textChange? (name : String) : Option (List Char → List Char) :=
  match name with
  | "upper" => some (·.flatMap upperChar)
  | "lower" => some toLower
  | "title" => some (titleCase true)
  | "capitalize" => some capitalized
  | _ => none

/-- The filters of texts. -/
def textFilter? (escaping : Bool) (name : String) (v : Value) (a : Arguments) : Option Outcome :=
  match textChange? name with
  | some change => some do
    let chars ← v.asText
    a.atMost 0
    return textLike v (change chars)
  | none =>
    match name with
    | "safe" => some do
      let chars ← v.asText
      a.atMost 0
      return .safe chars
    | "escape" | "e" => some do
      a.atMost 0
      return .safe v.escaped
    | "string" => some do
      a.atMost 0
      return if v.kind == .text then v else .text v.show
    | "trim" => some do
      let chars ← v.asText
      let drop ← a.optional 0 Value.asText
      a.atMost 1
      return textLike v (match drop with
        | some drop => trimBoth (drop.contains ·) chars
        | none => trim chars)
    | "replace" => some do
      let _ ← v.asText
      let old ← a.required 0
      let _ ← old.asText
      let new ← a.required 1
      let _ ← new.asText
      a.atMost 2
      return replaced escaping v old new
    | "join" => some do
      let _ ← a.optional 0 Value.asText
      a.atMost 1
      let items ← v.asItems
      return joined escaping ((a.optional? 0).getD (.text [])) items
    | "split" => some do
      let chars ← v.asText
      let separator ← a.optional 0 Value.asText
      let limit ← a.optional 1 Value.asInt
      a.atMost 2
      let limit := (limit.filter (0 ≤ ·)).map Int.toNat
      return textList (match separator, limit with
        | none, none => splitBlank chars
        | none, some n => splitBlankTimes n chars []
        | some separator, limit => splitOn separator limit chars)
    | "lines" => some do
      let chars ← v.asText
      a.atMost 0
      return textList (Text.lines chars)
    | "indent" => some do
      let chars ← v.asText
      let width ← a.optional 0 Value.asNat
      let first ← a.optional 1 Value.asBool
      let blank ← a.optional 2 Value.asBool
      a.atMost 3
      return textLike v (indented (width.getD 4) (first.getD false) (blank.getD false) chars)
    | "format" => some do
      let chars ← v.asString
      return textLike v (← formatted chars (if v.isSafe then protectedArguments a else a))
    | "pprint" => some do
      a.atMost 0
      return .text v.pretty
    | _ => none

/-! ## What is in a value -/

/-- The value at a key; undefined if there is none. -/
def itemOf (v key : Value) : Outcome :=
  if v.isUndefined then .error .undefinedValue else .ok ((v.item? key).getD .undefined)

/-- The value at one step of a path: a place if it is a number, else an attribute. -/
def stepInto (v : Value) (step : List Char) : Outcome :=
  if v.isUndefined then .error .undefinedValue
  else if !step.isEmpty && step.all Char.isDigit then itemOf v (.int (decimalNumber step))
  else .ok ((v.attribute? step).getD .undefined)

/-- The value at the end of a path of steps with dots between them. -/
def followPath (v : Value) (path : List Char) : Outcome :=
  (splitOn ['.'] none path).foldlM stepInto v

/-- The value at the end of a path, or another one if there is none. -/
def pathOr (missing : Value) (path : List Char) (v : Value) : Value :=
  match followPath v path with
  | .ok .undefined | .error _ => missing
  | .ok found => found

/-- The value that stands first in an order; of equals the first one. -/
def leastBy (before : Value → Value → Bool) : List Value → Value
  | [] => .undefined
  | v :: rest => rest.foldl (fun least w => if before w least then w else least) v

/-- The items of a value in the opposite order. -/
def reversed (v : Value) : Outcome :=
  match v with
  | .undefined | .none => .ok v
  | .text chars | .safe chars => .ok (.text chars.reverse)
  | v =>
    match v.held? with
    | some items => .ok (.lazy items.reverse)
    | none => .error .invalidOperation

/-- The entries of a mapping as pairs. -/
def pairsOf (v : Value) : Except TemplateError Entries :=
  match v with
  | .map _ entries => .ok entries
  | .loop place previous next =>
    .ok ((Value.loopFields place previous next).map fun (name, w) => (Value.ofString name, w))
  | _ => .error .invalidOperation

/-- Pairs as a list of lists. -/
def pairList (entries : Entries) : Value :=
  .stored (entries.map fun (key, v) => .stored [key, v])

/-- Entries that are in order. -/
def sortedEntries (byValue caseCounts backwards : Bool) (entries : Entries) : Entries :=
  let part := fun (e : Value × Value) => if byValue then e.2 else e.1
  let out := entries.mergeSort fun d e => (part e).orderBy caseCounts (part d) != .lt
  if backwards then out.reverse else out

/-- The filters for what is in a value. -/
def partFilter? (name : String) (v : Value) (a : Arguments) : Option Outcome :=
  match name with
  | "length" | "count" => some do
    a.atMost 0
    match v.length? with
    | some n => return .int n
    | none => throw .invalidOperation
  | "first" => some do
    a.atMost 0
    match v.held?, v.chars? with
    | some items, _ => return items.head?.getD .undefined
    | none, some chars => return (chars.head?.map fun c => Value.text [c]).getD .undefined
    | none, none => throw .invalidOperation
  | "last" => some do
    a.atMost 0
    match v.chars?, v with
    | some chars, _ => return (chars.getLast?.map fun c => Value.text [c]).getD .undefined
    | none, .list _ items => return items.getLast?.getD .undefined
    | none, _ => throw .invalidOperation
  | "attr" => some do
    let key ← a.required 0
    a.atMost 1
    itemOf v key
  | "reverse" => some do
    a.atMost 0
    reversed v
  | "list" => some do
    a.atMost 0
    return .stored (← v.asItems)
  | "min" => some do
    a.atMost 0
    return leastBy (fun w least => w.order least == .lt) (← v.asItems)
  | "max" => some do
    a.atMost 0
    return leastBy (fun w most => w.order most != .lt) (← v.asItems)
  | "items" => some do
    a.atMost 0
    return pairList (← pairsOf v)
  | "dictsort" => some do
    let (values, named) := a.splitNamed
    Arguments.atMost values 0
    let entries ← pairsOf v
    let byValue ←
      match ← namedArgument named "by" Value.asString with
      | none => pure false
      | some by' =>
        match String.ofList by' with
        | "key" => pure false
        | "value" => pure true
        | _ => throw .invalidOperation
    let caseCounts ← namedFlag named "case_sensitive"
    let backwards ← namedFlag named "reverse"
    onlyNamed named ["by", "case_sensitive", "reverse"]
    return pairList (sortedEntries byValue caseCounts backwards entries)
  | _ => none

/-! ## Several items -/

/-- Items in order. -/
def sortedItems (key : Value → Value) (caseCounts : Bool) (items : List Value) : List Value :=
  items.mergeSort fun v w => (key w).orderBy caseCounts (key v) != .lt

/-- Items without those whose keys equal an earlier one. -/
def distinct (key : Value → Value) (caseCounts : Bool) (items : List Value) : List Value :=
  items.foldl (fun acc v =>
    if acc.any fun w => (key w).orderBy caseCounts (key v) == .eq then acc else acc ++ [v]) []

/-- Neighbours with one key, together with the last key. -/
def groups (key : Value → Value) (caseCounts : Bool) (items : List Value) : List Value :=
  (items.splitBy fun v w => (key v).orderBy caseCounts (key w) == .eq).map fun items =>
    .list .group [key (items.getLast?.getD .undefined), .lazy items]

/-- Items in lists of so many; `fuel` is at least their number. The last list is filled up with a
value if there is one. -/
def batches (size : Nat) (fill : Option Value) : Nat → List Value → List Value
  | 0, _ => []
  | _ + 1, [] => []
  | fuel + 1, items =>
    let part := items.take size
    let filled :=
      match fill with
      | some v => part ++ List.replicate (size - part.length) v
      | none => part
    .stored filled :: batches size fill fuel (items.drop size)

/-- Items in so many lists, the longer ones first. To each of the other lists a value is added if
there is one. -/
def columns (count : Nat) (fill : Option Value) (items : List Value) : List Value :=
  let least := items.length / count
  let longer := items.length % count
  (List.range count).map fun i =>
    let start := i * least + min i longer
    let part := (items.drop start).take (if i < longer then least + 1 else least)
    .stored (if longer ≤ i then part ++ fill.toList else part)

/-- The sum of numbers; undefined values do not count. -/
def sumOf (items : List Value) : Outcome :=
  items.foldlM (fun acc v =>
    if v.isUndefined then .ok acc
    else if v.kind == .number then sum acc v
    else .error .invalidOperation) (.int 0)

/-- The items at the same places of lists, as long as all have one. -/
def zipped (lists : List (List Value)) : List Value :=
  let count := (lists.map List.length).min?.getD 0
  (List.range count).map fun i => .stored (lists.filterMap (·[i]?))

/-- Lists one after the other, or mappings of which later ones count. -/
def chained (values : List Value) : Outcome :=
  if values.all fun v => v.kind == .map then do
    return Value.mapOf (← values.mapM pairsOf).flatten
  else do
    let items := (← values.mapM Value.asItems).flatten
    return if values.all fun v => v.kind == .list then .stored items else .lazy items

/-- What items are compared by: themselves, or what a path leads to. -/
def keyOf (path : Option (List Char)) (missing v : Value) : Value :=
  match path with
  | some path => pathOr missing path v
  | none => v

/-- The filters of several items. -/
def gatherFilter? (name : String) (v : Value) (a : Arguments) : Option Outcome :=
  let (values, named) := a.splitNamed
  match name with
  | "sort" => some do
    Arguments.atMost values 0
    let items ← v.asItems
    let caseCounts ← namedFlag named "case_sensitive"
    let path ← namedArgument named "attribute" Value.asString
    let backwards ← namedFlag named "reverse"
    onlyNamed named ["attribute", "case_sensitive", "reverse"]
    let out := sortedItems (keyOf path .undefined) caseCounts items
    return .stored (if backwards then out.reverse else out)
  | "unique" => some do
    Arguments.atMost values 0
    let path ← namedArgument named "attribute" Value.asString
    let caseCounts ← namedFlag named "case_sensitive"
    onlyNamed named ["attribute", "case_sensitive"]
    return .stored (distinct (keyOf path .undefined) caseCounts (← v.asItems))
  | "groupby" => some do
    let path ← Arguments.optional values 0 Value.asString
    Arguments.atMost values 1
    let missing := (namedArgument? named "default").getD .undefined
    let caseCounts ← namedFlag named "case_sensitive"
    let path ←
      match path, Value.entry? named (Value.ofString "attribute") with
      | some path, _ => pure path
      | none, some path => path.asString
      | none, none => throw .missingArgument
    let items ← v.asItems
    onlyNamed named (["default", "case_sensitive"] ++ if values.isEmpty then ["attribute"] else [])
    let key := keyOf (some path) missing
    return .stored (groups key caseCounts (sortedItems key caseCounts items))
  | "sum" => some do
    a.atMost 0
    sumOf (← v.asItems)
  | "batch" => some do
    let count ← (← a.required 0).asNat
    a.atMost 2
    if count == 0 then throw .invalidOperation
    let items ← v.asItems
    return .stored (batches count (a.optional? 1) items.length items)
  | "slice" => some do
    let count ← (← a.required 0).asNat
    a.atMost 2
    if count == 0 then throw .invalidOperation
    return .stored (columns count (a.optional? 1) (← v.asItems))
  | "chain" => some (chained (v :: a))
  | "zip" => some do return .lazy (zipped (← (v :: a).mapM Value.asItems))
  | _ => none

/-! ## All filters -/

/-- The items that pass a test, or that fail it. -/
def select (keep : Bool) (key : Value → Outcome) (v : Value) (test : Option (List Char))
    (a : Arguments) : Outcome := do
  match test with
  | some name => if !testNames.contains (String.ofList name) then throw .unknownTest
  | none => pure ()
  let kept ← (← v.asItems).filterM fun item => do
    let w ← key item
    let answer ←
      match test with
      | some name => holds name w a
      | none => pure w.truth
    return answer == keep
  return .stored kept

/-- The items of a value, each replaced by what a path leads to. -/
def mapPath (v path : Value) (missing : Value) : Outcome := do
  let found ← (← v.asItems).mapM fun item =>
    let found :=
      match path.chars? with
      | some path => followPath item path
      | none => itemOf item path
    match found with
    | .ok .undefined => .ok missing
    | .ok w => .ok w
    | .error e => if missing.isUndefined then .error e else .ok missing
  return .stored found

/-- A value in place of one that is undefined or, on demand, of one that does not count as true. -/
def valueOr (v : Value) (a : Arguments) : Outcome := do
  let lax ← a.optional 1 Value.asBool
  a.atMost 2
  if v.isUndefined || (lax.getD false && !v.truth) then
    return (a.optional? 0).getD (.text [])
  else return v

/-- A filter applied to a value; `fuel` is more than the number of arguments. -/
def applyFilterFrom (escaping : Bool) : Nat → List Char → Value → Arguments → Outcome
  | 0, _, _, _ => .error .invalidOperation
  | fuel + 1, name, v, a =>
    let name := String.ofList name
    match numberFilter? name v a with
    | some answer => answer
    | none =>
    match textFilter? escaping name v a with
    | some answer => answer
    | none =>
    match partFilter? name v a with
    | some answer => answer
    | none =>
    match gatherFilter? name v a with
    | some answer => answer
    | none =>
    match name with
    | "default" | "d" => valueOr v a
    | "select" => do
      let test ← a.optional 0 Value.asText
      select true .ok v test (a.drop 1)
    | "reject" => do
      let test ← a.optional 0 Value.asText
      select false .ok v test (a.drop 1)
    | "selectattr" => do
      let path ← (← a.required 0).asText
      let test ← a.optional 1 Value.asText
      select true (followPath · path) v test (a.drop 2)
    | "rejectattr" => do
      let path ← (← a.required 0).asText
      let test ← a.optional 1 Value.asText
      select false (followPath · path) v test (a.drop 2)
    | "map" =>
      let (values, named) := Arguments.splitNamed a
      match namedArgument? named "attribute", values with
      | some path, [] => do
        let out ← mapPath v path ((Value.entry? named (Value.ofString "default")).getD .undefined)
        onlyNamed named ["attribute", "default"]
        return out
      | some _, _ :: _ => .error .tooManyArguments
      | none, [] => .error .invalidOperation
      | none, f :: _ => do
        let f ← f.asString
        if !filterNames.contains (String.ofList f) then throw .unknownFilter
        let out ← (← v.asItems).mapM fun item =>
          applyFilterFrom escaping fuel f item (a.drop 1)
        return .stored out
    | _ => .error .unknownFilter

/-- A filter applied to a value. -/
def applyFilter (escaping : Bool) (name : List Char) (v : Value) (a : Arguments) : Outcome :=
  applyFilterFrom escaping (a.length + 1) name v a

end LiterateSite.Template
