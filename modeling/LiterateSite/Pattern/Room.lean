import LiterateSite.Pattern.CharSet

/-!
# The room that a pattern takes

A pattern is run by an automaton over the bytes of the text, which may not take more than a fixed
room. It counts in both directions, since a text may be read backwards to find where a match begins.

* `Room`: the bytes that an automaton takes, read forwards and backwards.
* `Room.ofSet`: the room of a set of characters, from the runs of its members.
* `Room.fits`: the room is within the limit.
-/

namespace LiterateSite

open Text

/-- The bytes that an automaton takes, read forwards and backwards. -/
structure Room where
  forward : Nat
  backward : Nat
  deriving DecidableEq, Repr, Inhabited

namespace Room

instance : Add Room := ⟨fun a b => ⟨a.forward + b.forward, a.backward + b.backward⟩⟩

/-- The same room in both directions. -/
def both (n : Nat) : Room := ⟨n, n⟩

/-- The room of `n` copies. -/
def scale (n : Nat) (r : Room) : Room := ⟨n * r.forward, n * r.backward⟩

/-- One state of an automaton. -/
def state : Nat := 32

/-- One labelled edge of a state that has several. -/
def edge : Nat := 8

/-- One way out of a state that consumes nothing. -/
def choice : Nat := 4

/-- The room that there is. -/
def limit : Nat := 10 * Nat.pow 2 20

/-- The room is within the limit. -/
def fits (r : Room) : Bool := r.forward ≤ limit && r.backward ≤ limit

/-! ## Sets of characters -/

/-- Where to cut the code points from `first` to `last`, that all have `tails + 1` bytes, so that
the first part has all continuations of the bytes before the cut or none of them is shared. -/
def cut? (first last : Nat) : Nat → Nat → Option Nat
  | _, 0 => none
  | i, tails + 1 =>
    let block := Nat.pow 64 i
    if first / block == last / block then cut? first last (i + 1) tails
    else if first % block != 0 then some (first / block * block + block)
    else if last % block != block - 1 then some (last / block * block)
    else cut? first last (i + 1) tails

/-- The first code point of more bytes, if the run holds code points of different lengths. -/
def lengthCut? (first last : Nat) : Option Nat :=
  [0x80, 0x800, 0x10000].find? fun n => first < n && n ≤ last

/-- Parts of a run in which every byte ranges on its own; `fuel` bounds the number of cuts. -/
def parts : Nat → Nat → Nat → List (Nat × Nat)
  | 0, first, last => [(first, last)]
  | fuel + 1, first, last =>
    let tails := if first < 0x80 then 0 else if first < 0x800 then 1 else if first < 0x10000 then 2
      else 3
    match (lengthCut? first last).or (cut? first last 1 tails) with
    | some middle => parts fuel first (middle - 1) ++ parts fuel middle last
    | none => [(first, last)]

/-- The ranges of the bytes of a part. -/
def byteRanges (part : Nat × Nat) : List (UInt8 × UInt8) :=
  (String.utf8EncodeChar (Char.ofNat part.1)).zip (String.utf8EncodeChar (Char.ofNat part.2))

/-- How many ranges two sequences have in common at their start. -/
def shared : List (UInt8 × UInt8) → List (UInt8 × UInt8) → Nat
  | a :: as, b :: bs => if a == b then shared as bs + 1 else 0
  | _, _ => 0

/-- The states of sequences of ranges, each sharing what it can with the one before. -/
def branches (before : List (UInt8 × UInt8)) : List (List (UInt8 × UInt8)) → Nat
  | [] => 0
  | sequence :: rest =>
    choice + state * (sequence.length - shared before sequence) + branches sequence rest

/-- The room of a set of characters with these runs. Read forwards, the states of the last bytes
are shared, which makes the room smaller by more than half. -/
def ofRuns (runs : List (Nat × Nat)) : Room :=
  match runs with
  | [(first, last)] =>
    if first == last then both (state * (String.utf8EncodeChar (Char.ofNat first)).length)
    else general runs
  | _ => general runs
where
  general (runs : List (Nat × Nat)) : Room :=
    if runs.all fun (_, last) => last < 0x80 then both (2 * state + edge * runs.length)
    else
      let sequences := runs.flatMap fun (first, last) => (parts 32 first last).map byteRanges
      let backward := 2 * state + branches [] sequences
      ⟨backward * 2 / 5, backward⟩

/-- The room of a set of characters. -/
def ofSet (s : CharSet) : Room := ofRuns s.runs

end Room

end LiterateSite
