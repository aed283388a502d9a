/-!
# TOML documents

* `Toml`: the values of a document.
* `Table.insertKey?`, `Table.openTable?`, `Table.addElement?`: build a document by its lines; what
  has been defined cannot be defined again.
-/

namespace LiterateSite.Settings

/-- How a table came to be. -/
inductive Origin where
  /-- By the header of a table within it. -/
  | implicit
  | header
  /-- By a key with dots. -/
  | dotted
  | inline
  deriving DecidableEq, Repr, Inhabited

/-- A value of a document. Numbers with fractions and times have no use here but as values of some
other kind. -/
inductive Toml where
  | string (chars : List Char)
  | int (n : Int)
  | bool (b : Bool)
  | float
  | time
  | array (items : List Toml)
  | table (origin : Origin) (entries : List (List Char × Toml))
  /-- Tables that have one header. -/
  | tables (elements : List (List (List Char × Toml)))
  deriving Repr, Inhabited

/-- The entries of a table. -/
abbrev Table := List (List Char × Toml)

namespace Table

/-- The table with another value for a key. -/
def put (key : List Char) (v : Toml) : Table → Table
  | [] => [(key, v)]
  | (k, old) :: rest => if k == key then (k, v) :: rest else (k, old) :: put key v rest

/-- A tables's value for a key with dots: the tables on the way are made by such keys, too. -/
def insertKey? (v : Toml) : List (List Char) → Table → Option Table
  | [], _ => none
  | [key], t => if (t.lookup key).isSome then none else some (t ++ [(key, v)])
  | key :: path, t =>
    match t.lookup key with
    | none => (insertKey? v path []).map fun inner => t ++ [(key, .table .dotted inner)]
    | some (.table origin inner) =>
      if origin == .dotted || (origin == .implicit && path.length > 1) then
        (insertKey? v path inner).map fun inner => t.put key (.table origin inner)
      else none
    | some _ => none

/-- Change the table that a header leads to; tables on the way are created. -/
def descend? (change : List Char → Table → Option Table) : List (List Char) → Table → Option Table
  | [], _ => none
  | [key], t => change key t
  | key :: path, t =>
    match t.lookup key with
    | none => (descend? change path []).map fun inner => t ++ [(key, .table .implicit inner)]
    | some (.table .inline _) => none
    | some (.table origin inner) =>
      (descend? change path inner).map fun inner => t.put key (.table origin inner)
    | some (.tables elements) =>
      match elements.getLast? with
      | none => none
      | some last =>
        (descend? change path last).map fun inner =>
          t.put key (.tables (elements.dropLast ++ [inner]))
    | some _ => none

/-- Open a table by its header. -/
def openTable? : List (List Char) → Table → Option Table :=
  descend? fun key t =>
    match t.lookup key with
    | none => some (t ++ [(key, .table .header [])])
    | some (.table .implicit inner) => some (t.put key (.table .header inner))
    | some _ => none

/-- Add an element to the tables of one header. -/
def addElement? : List (List Char) → Table → Option Table :=
  descend? fun key t =>
    match t.lookup key with
    | none => some (t ++ [(key, .tables [[]])])
    | some (.tables elements) => some (t.put key (.tables (elements ++ [[]])))
    | some _ => none

/-- Give a value to a key of the table that is open at a path. -/
def assign? (path keys : List (List Char)) (v : Toml) (t : Table) : Option Table :=
  if path.isEmpty then insertKey? v keys t
  else
    descend? (fun key t =>
      match t.lookup key with
      | some (.table origin inner) =>
        (insertKey? v keys inner).map fun inner => t.put key (.table origin inner)
      | some (.tables elements) =>
        match elements.getLast? with
        | none => none
        | some last =>
          (insertKey? v keys last).map fun inner =>
            t.put key (.tables (elements.dropLast ++ [inner]))
      | _ => none) path t

end Table

end LiterateSite.Settings
