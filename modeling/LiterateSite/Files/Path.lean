/-!
# Paths

A path is a text; slashes stand between its parts.

* `Path.join`: a path below another.
* `Path.parent?`, `Path.fileName?`: the two ends of a path.
* `Path.steps`: the way that a path describes.
-/

namespace LiterateSite.Files

/-- A path, as it is written. -/
structure Path where
  chars : List Char
  deriving DecidableEq, Repr, Inhabited

/-- A name in a directory. Names that are not text are kept as bytes. -/
inductive Name where
  | text (chars : List Char)
  | raw (bytes : List UInt8)
  deriving DecidableEq, Repr, Inhabited

/-- One step on a way through directories. -/
inductive Step where
  | up
  | here
  /-- The slash at the end of a path: what has been reached has to be a directory. -/
  | slash
  | name (n : Name)
  deriving DecidableEq, Repr, Inhabited

namespace Path

def ofString (s : String) : Path := ⟨s.toList⟩

def toString (p : Path) : String := String.ofList p.chars

def isAbsolute (p : Path) : Bool := p.chars.head? == some '/'

/-- A path below another. An absolute path stands for itself. -/
def join (p q : Path) : Path :=
  if q.isAbsolute then q
  else if p.chars.isEmpty || p.chars.getLast? == some '/' then ⟨p.chars ++ q.chars⟩
  else ⟨p.chars ++ '/' :: q.chars⟩

/-- The parts between slashes. -/
def split : List Char → List (List Char)
  | [] => [[]]
  | c :: rest =>
    if c == '/' then [] :: split rest
    else
      match split rest with
      | [] => [[c]]
      | part :: parts => (c :: part) :: parts

/-- The step that a part between slashes describes; an empty part describes none. -/
def step? (part : List Char) : Option Step :=
  if part.isEmpty then none
  else if part == ['.'] then some .here
  else if part == ['.', '.'] then some .up
  else some (.name (.text part))

/-- The steps that a path describes. -/
def steps (p : Path) : List Step :=
  (split p.chars).filterMap step? ++ (if p.chars.getLast? == some '/' then [.slash] else [])

/-- The text without slashes, and parts that are a dot, at its end. A dot at the start stays. -/
def trimEnd (chars : List Char) : List Char :=
  go chars.reverse
where
  go : List Char → List Char
    | ['/'] => ['/']
    | '/' :: rest => go rest
    | '.' :: '/' :: rest => go ('/' :: rest)
    | chars => chars.reverse

/-- The last part of a path and the text before it. -/
def last (p : Path) : List Char × List Char :=
  let chars := trimEnd p.chars
  let part := (chars.reverse.takeWhile (· != '/')).reverse
  (chars.take (chars.length - part.length), part)

/-- The name at the end of a path. -/
def fileName? (p : Path) : Option Path :=
  let part := p.last.2
  if part.isEmpty || part == ['.'] || part == ['.', '.'] then none else some ⟨part⟩

/-- The path without its last part. -/
def parent? (p : Path) : Option Path :=
  let (before, part) := p.last
  if part.isEmpty then none else some ⟨trimEnd before⟩

instance : ToString Path := ⟨Path.toString⟩

end Path

end LiterateSite.Files
