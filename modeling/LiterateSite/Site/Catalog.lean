import LiterateSite.Site.Naming
import LiterateSite.Site.Session
import LiterateSite.Text.Line

/-!
# The catalog of examples

Examples are the directories in the examples directory, in the order of the manifest if there is
one.

* `Entry`: an example with its neighbours.
* `directoryIds`: the directories.
* `manifestIds`: the ids that a manifest lists.
* `catalog`: the examples in the order in which they are built.
-/

namespace LiterateSite.Site

open Files

/-- An example. -/
structure Entry where
  /-- The name of its directory. -/
  id : String
  displayName : String
  directory : Path
  source : Path
  previous : Option String
  next : Option String
  deriving DecidableEq, Repr, Inhabited

namespace Entry

/-- A file that is kept beside the source. -/
def sidecar (e : Entry) (extension : String) : Path :=
  e.directory.join (Path.ofString (e.id ++ "." ++ extension))

/-- The file that holds the digest of the source that the transcript belongs to. -/
def hashPath (e : Entry) : Path := e.sidecar "hash"

def transcriptPath (e : Entry) : Path := e.sidecar "transcript"

end Entry

/-- Where examples come from. -/
structure Layout where
  examples : Path := Path.ofString "examples"
  manifest : Option Path := none
  /-- What source files end in, without the dot. -/
  extension : String := "js"
  deriving DecidableEq, Repr, Inhabited

/-- What an entry of a directory leads to. A link that leads nowhere, or back to the directory, is
an error. -/
def entryAt (t : Tree) (directory : Path) (root : Location) (n : Name) : Except IoError Files.Entry :=
  let path := directory.join ⟨n.toText⟩
  match t.get? (n :: root) with
  | none => .error .notFound
  | some (.link _) =>
    match t.walk true Tree.maxLinks root [.name n] with
    | .error e => .error (.badEntry path e)
    | .ok l =>
      match t.get? l with
      | none => .error (.badEntry path .notFound)
      | some .directory => if l == root then .error (.loop path directory) else .ok .directory
      | some e => .ok e
  | some e => .ok e

/-- The ids among the names in a directory, and the events on the way. -/
def idsAmong (t : Tree) (directory : Path) (root : Location) :
    List Name → List Event × Except BuildError (List String)
  | [] => ([], .ok [])
  | n :: rest =>
    let path := directory.join ⟨n.toText⟩
    match entryAt t directory root n with
    | .error e => ([], .error (.io directory e))
    | .ok .directory =>
      match n with
      | .raw _ => ([], .error (.config (.nameNotText path)))
      | .text chars =>
        let (events, ids) := idsAmong t directory root rest
        (events, ids.map (String.ofList chars :: ·))
    | .ok _ =>
      let (events, ids) := idsAmong t directory root rest
      (.skippingNonDirectory path :: events, ids)

/-- The directories in a directory, in the order of the file system. -/
def directoryIds (t : Tree) (directory : Path) : List Event × Except BuildError (List String) :=
  match t.resolve directory with
  | .error e => ([], .error (.io directory e))
  | .ok root => idsAmong t directory root (t.names root)

/-- The ids that the text of a manifest lists: one a line, without blank lines at the end. -/
def manifestIds (text : List Char) : List String :=
  let all := (Text.lines text).map Text.trim
  ((all.reverse.dropWhile List.isEmpty).reverse).map String.ofList

/-- The example of an id between its neighbours. -/
def entryOf (layout : Layout) (previous : Option String) (id : String) (next : Option String) :
    Entry :=
  let directory := layout.examples.join (Path.ofString id)
  { id, directory, previous, next
    displayName := displayName id
    source := directory.join (Path.ofString (id ++ "." ++ layout.extension)) }

/-- The examples of ids that follow on `previous`. -/
def entriesFrom (layout : Layout) (previous : Option String) : List String → List Entry
  | [] => []
  | id :: rest => entryOf layout previous id rest.head? :: entriesFrom layout (some id) rest

/-- The examples of a list of ids. -/
def entriesOf (layout : Layout) (ids : List String) : List Entry := entriesFrom layout none ids

/-- The ids in the order of the manifest, which has to list as many as there are directories. -/
def orderedIds (t : Tree) (layout : Layout) (found : List String) :
    Except BuildError (List String) :=
  match layout.manifest with
  | none => .ok found
  | some manifest =>
    match t.readText manifest with
    | .error e => .error (.io manifest e)
    | .ok text =>
      let ids := manifestIds text
      if ids.length == found.length then .ok ids
      else .error (.config (.manifestCount manifest ids.length layout.examples found.length))

/-- The examples in the order in which they are built. -/
def catalog (layout : Layout) : Building (List Entry) := do
  let t ← Building.files
  if !t.isDir layout.examples then throw (.config (.noExamples layout.examples))
  let (events, found) := directoryIds t layout.examples
  events.forM Building.report
  let ids ← liftExcept (found.bind (orderedIds t layout))
  Building.report (.foundExamples ids.length layout.examples)
  return entriesOf layout ids
where
  liftExcept {α : Type} (r : Except BuildError α) : Building α :=
    match r with
    | .ok a => pure a
    | .error e => throw e

end LiterateSite.Site
