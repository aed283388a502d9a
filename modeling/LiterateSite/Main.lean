import LiterateSite.CommandLine.Program

/-!
# The executable

Reads what is below the working directory, carries out the task that the arguments name, and brings
the directory to the state that the task leaves.
-/

namespace LiterateSite

open CommandLine Files

/-- The place of a name in a directory. -/
def placeIn (directory : Location) (name : String) : Location := .text name.toList :: directory

/-- Add an entry of a directory and what is below it. -/
partial def addEntry (directory : Location) (t : Tree) (e : IO.FS.DirEntry) : IO Tree := do
  let l := placeIn directory e.fileName
  match (← e.path.symlinkMetadata).type with
  | .dir => (← e.path.readDir).foldlM (addEntry l) (t.insert l .directory)
  | .symlink => return t.insert l (.link (← IO.FS.realPath e.path).toString.toList)
  | _ => return t.insert l (.file (← IO.FS.readBinFile e.path).toList)

/-- The working directory, with the directories that it is in. -/
def readTree : IO Tree := do
  let cwd ← IO.currentDir
  let names := cwd.components.filter (· != "")
  let (top, workDir) := names.foldl
    (fun (t, l) name => (t.insert (placeIn l name) .directory, placeIn l name)) (({} : Tree), [])
  (← cwd.readDir).foldlM (addEntry workDir) { top with workDir }

/-- The path of a place. -/
def pathOf (l : Location) : String := "/" ++ "/".intercalate (l.reverse.map nameText)
where
  nameText (n : Name) : String := String.ofList n.toText

/-- Bring the directory from one state to another. -/
def writeChanges (old new : Tree) : IO Unit := do
  for (l, e) in old.entries do
    if (new.get? l).isNone && e != .directory then IO.FS.removeFile (pathOf l)
  for (l, e) in new.entries do
    if old.get? l != some e then
      match e with
      | .directory => IO.FS.createDirAll (pathOf l)
      | .file content => IO.FS.writeBinFile (pathOf l) (ByteArray.mk content.toArray)
      | .link _ => pure ()

/-- Carry out a task in the working directory. -/
def execute (arguments : List String) : IO UInt32 := do
  let tree ← readTree
  let start ← IO.monoMsNow
  let answer := runProgram arguments tree
  writeChanges tree answer.files
  let elapsed := toString ((← IO.monoMsNow) - start) ++ "ms"
  for e in answer.events do
    IO.println (e.level.label ++ " " ++ e.message elapsed)
  IO.print answer.output
  IO.eprint answer.errors
  return UInt32.ofNat answer.code

end LiterateSite

def main (arguments : List String) : IO UInt32 := LiterateSite.execute arguments
