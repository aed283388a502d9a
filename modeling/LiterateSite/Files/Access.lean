import LiterateSite.Files.Tree
import LiterateSite.Text.Utf8

/-!
# Access by paths

* `IoError`: why an access fails.
* `Tree.resolve`: the place that a path leads to.
* `Tree.read`, `Tree.write`, `Tree.unlink`, `Tree.createDir`, `Tree.createDirAll`: access to
  files and directories.
-/

namespace LiterateSite.Files

open Text

/-- Why an access fails. -/
inductive IoError where
  | notFound
  | permissionDenied
  | alreadyExists
  | notDirectory
  | isDirectory
  | nameTooLong
  | tooManyLinks
  /-- A path with a null character leads nowhere. -/
  | badName
  /-- A program cannot be given a null character. -/
  | badArgument
  /-- The content is no text. -/
  | notText
  /-- An entry of a directory cannot be looked at. -/
  | badEntry (path : Path) (cause : IoError)
  /-- An entry of a directory leads back to the directory. -/
  | loop (path ancestor : Path)
  deriving DecidableEq, Repr, Inhabited

/-- The text of an error. -/
def IoError.message : IoError → String
  | .notFound => "No such file or directory (os error 2)"
  | .permissionDenied => "Permission denied (os error 13)"
  | .alreadyExists => "File exists (os error 17)"
  | .notDirectory => "Not a directory (os error 20)"
  | .isDirectory => "Is a directory (os error 21)"
  | .nameTooLong => "File name too long (os error 36)"
  | .tooManyLinks => "Too many levels of symbolic links (os error 40)"
  | .badName => "file name contained an unexpected NUL byte"
  | .badArgument => "nul byte found in provided data"
  | .notText => "stream did not contain valid UTF-8"
  | .badEntry path cause => "IO error for operation on " ++ path.toString ++ ": " ++ cause.message
  | .loop path ancestor =>
    "File system loop found: " ++ path.toString ++ " points to an ancestor " ++ ancestor.toString

/-- The number of bytes of a name. -/
def Name.size : Name → Nat
  | .text chars => (Utf8.encode chars).length
  | .raw bytes => bytes.length

/-- The name as text; what is no text is replaced. -/
def Name.toText : Name → List Char
  | .text chars => chars
  | .raw bytes => Utf8.decodeLossy bytes

namespace Tree

/-- Where a way without links leads to. -/
inductive Reached where
  | place (l : Location)
  /-- A link in a directory that has to be followed, with the steps after it. -/
  | link (directory : Location) (target : List Char) (rest : List Step)
  deriving DecidableEq, Repr

/-- Go from a place up to the first link. A link at the end is followed only on demand. The last
name need not be there. -/
def advance (t : Tree) (follow : Bool) : Location → List Step → Except IoError Reached
  | l, [] => .ok (.place l)
  | l, s :: rest =>
    match t.get? l with
    | none => .error .notFound
    | some .directory =>
      match s with
      | .up => advance t follow l.tail rest
      | .here | .slash => advance t follow l rest
      | .name n =>
        if n.size > 255 then .error .nameTooLong
        else
          match t.get? (n :: l) with
          | some (.link target) =>
            if rest.isEmpty && !follow then .ok (.place (n :: l)) else .ok (.link l target rest)
          | _ => advance t follow (n :: l) rest
    | some _ => .error .notDirectory

/-- The place that steps lead to; `fuel` bounds the number of links. -/
def walk (t : Tree) (follow : Bool) : Nat → Location → List Step → Except IoError Location
  | 0, _, _ => .error .tooManyLinks
  | fuel + 1, l, steps =>
    match advance t follow l steps with
    | .error e => .error e
    | .ok (.place l) => .ok l
    | .ok (.link directory target rest) =>
      let p : Path := ⟨target⟩
      walk t follow fuel (if p.isAbsolute then [] else directory) (p.steps ++ rest)

/-- How many links may stand on a way. -/
def maxLinks : Nat := 41

/-- The place that steps lead to, from the root or the working directory. -/
def resolveSteps (t : Tree) (follow : Bool) (p : Path) (steps : List Step) :
    Except IoError Location :=
  if p.chars.isEmpty then .error .notFound
  else if p.chars.contains '\x00' then .error .badName
  else t.walk follow maxLinks (if p.isAbsolute then [] else t.workDir) steps

/-- The place that a path leads to. -/
def resolve (t : Tree) (p : Path) (follow : Bool := true) : Except IoError Location :=
  t.resolveSteps follow p p.steps

/-- What a path leads to. -/
def stat (t : Tree) (p : Path) (follow : Bool := true) : Except IoError Entry :=
  match t.resolve p follow with
  | .error e => .error e
  | .ok l =>
    match t.get? l with
    | some e => .ok e
    | none => .error .notFound

def «exists» (t : Tree) (p : Path) : Bool := (t.stat p).toOption.isSome

def isDir (t : Tree) (p : Path) : Bool := (t.stat p).toOption == some .directory

def isFile (t : Tree) (p : Path) : Bool :=
  match t.stat p with
  | .ok (.file _) => true
  | _ => false

/-- The content of a file. -/
def read (t : Tree) (p : Path) : Except IoError (List UInt8) :=
  match t.stat p with
  | .error e => .error e
  | .ok (.file content) => .ok content
  | .ok .directory => .error .isDirectory
  | .ok (.link _) => .error .notFound

/-- The content of a file that is text. -/
def readText (t : Tree) (p : Path) : Except IoError (List Char) :=
  match t.read p with
  | .error e => .error e
  | .ok bytes =>
    match Utf8.decode? bytes with
    | some chars => .ok chars
    | none => .error .notText

/-- Write a file, in place of one that is there. -/
def write (t : Tree) (p : Path) (content : List UInt8) : Except IoError Tree :=
  match t.resolve p with
  | .error e => .error e
  | .ok l =>
    match t.get? l with
    | some .directory => .error .isDirectory
    | _ => .ok (t.insert l (.file content))

/-- Remove a file or a link. -/
def unlink (t : Tree) (p : Path) : Except IoError Tree :=
  match t.resolve p false with
  | .error e => .error e
  | .ok l =>
    match t.get? l with
    | none => .error .notFound
    | some .directory => .error .isDirectory
    | some _ => .ok (t.erase l)

/-- Create a directory. -/
def createDir (t : Tree) (p : Path) : Except IoError Tree :=
  match t.resolveSteps false p (p.steps.filter (· != .slash)) with
  | .error e => .error e
  | .ok l =>
    match t.get? l with
    | some _ => .error .alreadyExists
    | none => .ok (t.insert l .directory)

/-- Create a directory and those that it is in; `fuel` bounds their number. What has been created
stays if a later step fails. -/
def createDirs : Nat → Tree → Path → Tree × Except IoError Unit
  | 0, t, _ => (t, .error .notFound)
  | fuel + 1, t, p =>
    if p.chars.isEmpty then (t, .ok ())
    else
      match t.createDir p with
      | .ok t => (t, .ok ())
      | .error .notFound =>
        match p.parent? with
        | none => (t, .error .notFound)
        | some parent =>
          match createDirs fuel t parent with
          | (t, .error e) => (t, .error e)
          | (t, .ok ()) =>
            match t.createDir p with
            | .ok t => (t, .ok ())
            | .error e => if t.isDir p then (t, .ok ()) else (t, .error e)
      | .error e => if t.isDir p then (t, .ok ()) else (t, .error e)

/-- Create a directory and those that it is in. -/
def createDirAll (t : Tree) (p : Path) : Tree × Except IoError Unit :=
  createDirs (p.chars.length + 1) t p

/-- Create a link. -/
def createLink (t : Tree) (target : List Char) (p : Path) : Except IoError Tree :=
  match t.resolve p false with
  | .error e => .error e
  | .ok l =>
    match t.get? l with
    | some _ => .error .alreadyExists
    | none => .ok (t.insert l (.link target))

/-- Remove what is at a path, a directory with all that is in it. -/
def removeAll (t : Tree) (p : Path) : Except IoError Tree :=
  match t.resolve p false with
  | .error e => .error e
  | .ok l =>
    match t.get? l with
    | none => .error .notFound
    | some _ => .ok (t.eraseAll l)

end Tree

end LiterateSite.Files
