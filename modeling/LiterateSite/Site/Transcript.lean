import LiterateSite.Site.Catalog

/-!
# Transcripts

The output of an example is kept beside its source, with the digest of the source that it belongs
to. The digest is written after the transcript and removed before a run, so a digest that is there
belongs to a whole transcript.

* `Status`: how a transcript was come by.
* `lookUp`: what the files beside the source say.
* `ensureFresh`: the transcript of a source, by a run if need be.
-/

namespace LiterateSite.Site

open Files Text

/-- How a transcript was come by. -/
inductive Status where
  /-- It was there. -/
  | hit
  /-- There was none. -/
  | fresh
  /-- There was one for another source. -/
  | stale
  /-- There was a digest, but no transcript. -/
  | incomplete
  deriving DecidableEq, Repr, Inhabited

/-- The example has been run. -/
def Status.executed (s : Status) : Bool := s != .hit

/-- The transcript of an example. -/
structure Transcript where
  text : List Char
  /-- The digest of the source that it belongs to. -/
  digest : String
  status : Status
  deriving DecidableEq, Repr, Inhabited

/-- The text of a file, if there is one. -/
def readOptional (t : Tree) (p : Path) : Except BuildError (Option (List Char)) :=
  match t.read p with
  | .ok bytes => .ok (some (Utf8.decodeLossy bytes))
  | .error .notFound => .ok none
  | .error e => .error (.io p e)

/-- What the files beside a source say: the transcript for a digest, or why there is none. -/
def lookUp (t : Tree) (e : Entry) (digest : String) : Except BuildError (Status × List Char) :=
  match readOptional t e.hashPath with
  | .error err => .error err
  | .ok none => .ok (.fresh, [])
  | .ok (some known) =>
    if trim known == digest.toList then
      match readOptional t e.transcriptPath with
      | .error err => .error err
      | .ok (some text) => .ok (.hit, text)
      | .ok none => .ok (.incomplete, [])
    else .ok (.stale, [])

/-- The event that tells of a status. -/
def Status.event (id : String) : Status → Event
  | .hit => .cacheHit id
  | .fresh => .freshEntry id
  | .stale => .digestChanged id
  | .incomplete => .transcriptMissing id

/-- The files without one, if it is there. -/
def removeIfThere (t : Tree) (p : Path) : Except IoError Tree :=
  match t.unlink p with
  | .error .notFound => .ok t
  | r => r

/-- The text of a transcript: the prompt and the output. -/
def transcriptText (id : String) (output : List UInt8) : List Char :=
  prompt id ++ Utf8.decodeLossy output

/-- Run an example and keep its transcript. -/
def refresh (runner : Runner) (e : Entry) (digest : String) : Building (List Char) := do
  Building.change e.hashPath (removeIfThere · e.hashPath)
  let output ← Building.run runner e.source
  let text := transcriptText e.id output
  Building.write e.transcriptPath (Utf8.encode text)
  Building.write e.hashPath (Utf8.ofString digest)
  return text

/-- The transcript of an example, which is run only if the digest of its source is not the one that
is kept. -/
def ensureFresh (runner : Runner) (e : Entry) (source : List UInt8) : Building Transcript := do
  let digest := sourceDigest e.id source
  match lookUp (← Building.files) e digest with
  | .error err => throw err
  | .ok (status, text) =>
    Building.report (status.event e.id)
    if status.executed then
      let text ← refresh runner e digest
      return { text, digest, status }
    else return { text, digest, status }

end LiterateSite.Site
