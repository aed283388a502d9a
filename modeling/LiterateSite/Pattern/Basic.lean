import LiterateSite.Pattern.CharSet
import Std.Data.HashSet

/-!
# Patterns

Regular expressions with preferences. Where a pattern can match in several ways, the way that its
alternatives and repetitions prefer wins; a match may be shorter than another one.

* `Cursor`, `Match`: a position in a text, and two that a match lies between.
* `Assertion.holds`: conditions on a position.
* `Pattern`, `Pattern.ends`: the pattern, and the positions where it can end from a position on,
  the preferred ones first and each of them once. Listing each position once keeps the work small:
  which of many ways leads to a position never matters to what follows.
* `Pattern.matchAt?`, `Pattern.find?`: the match at the start of a text, and the leftmost match.
-/

namespace LiterateSite

open Text

/-- A position in a text. -/
structure Cursor where
  /-- The character before the position; none at the start. -/
  before : Option Char
  /-- How many characters lie before the position. -/
  consumed : Nat
  /-- The text after the position. -/
  rest : List Char
  deriving DecidableEq, Repr, Inhabited

namespace Cursor

/-- The start of a text. -/
def start (text : List Char) : Cursor := ⟨none, 0, text⟩

/-- The position after the next character `c`, which `rest` follows. -/
def advance (cur : Cursor) (c : Char) (rest : List Char) : Cursor :=
  ⟨some c, cur.consumed + 1, rest⟩

/-- A character of the class stands before the position. -/
def isAfter (cur : Cursor) (cls : Char → Bool) : Bool := cur.before.any cls

/-- A character of the class stands after the position. -/
def isBefore (cur : Cursor) (cls : Char → Bool) : Bool := cur.rest.head?.any cls

end Cursor

/-- Where a match begins, and the position after it. -/
structure Match where
  start : Nat
  stop : Cursor
  deriving DecidableEq, Repr, Inhabited

/-- A match of no characters. -/
def Match.isEmpty (m : Match) : Bool := m.start == m.stop.consumed

/-- Conditions on a position. -/
inductive Assertion where
  | textStart
  | textEnd
  /-- The start of the text or the place after `\n`. -/
  | lineStart
  /-- The end of the text or the place before `\n`. -/
  | lineEnd
  /-- Line starts and ends where `\r` and `\r\n` end lines, too. -/
  | lineStartCrlf
  | lineEndCrlf
  /-- A word character on exactly one side; `ascii` words hold ASCII characters only. -/
  | wordEdge (ascii : Bool)
  | noWordEdge (ascii : Bool)
  | wordStart (ascii : Bool)
  | wordEnd (ascii : Bool)
  /-- No word character before the position. -/
  | wordStartHalf (ascii : Bool)
  /-- No word character after the position. -/
  | wordEndHalf (ascii : Bool)
  deriving DecidableEq, Repr, Inhabited

/-- The word characters, or the ASCII ones only. -/
def wordClass (ascii : Bool) : Char → Bool := if ascii then isAsciiWord else isWord

/-- The assertion holds at the position. -/
def Assertion.holds (cur : Cursor) : Assertion → Bool
  | textStart => cur.before.isNone
  | textEnd => cur.rest.isEmpty
  | lineStart => cur.before.isNone || cur.isAfter (· == '\n')
  | lineEnd => cur.rest.isEmpty || cur.isBefore (· == '\n')
  | lineStartCrlf =>
    cur.before.isNone || cur.isAfter (· == '\n')
      || (cur.isAfter (· == '\r') && !cur.isBefore (· == '\n'))
  | lineEndCrlf =>
    cur.rest.isEmpty || cur.isBefore (· == '\r')
      || (cur.isBefore (· == '\n') && !cur.isAfter (· == '\r'))
  | wordEdge ascii => cur.isAfter (wordClass ascii) != cur.isBefore (wordClass ascii)
  | noWordEdge ascii => cur.isAfter (wordClass ascii) == cur.isBefore (wordClass ascii)
  | wordStart ascii => !cur.isAfter (wordClass ascii) && cur.isBefore (wordClass ascii)
  | wordEnd ascii => cur.isAfter (wordClass ascii) && !cur.isBefore (wordClass ascii)
  | wordStartHalf ascii => !cur.isAfter (wordClass ascii)
  | wordEndHalf ascii => !cur.isBefore (wordClass ascii)

/-- Regular expressions with preferences. -/
inductive Pattern where
  /-- The empty text. -/
  | empty
  /-- One character of a set. -/
  | one (set : CharSet)
  /-- The empty text where an assertion holds. -/
  | look (condition : Assertion)
  /-- `p`, then `q`. -/
  | seq (p q : Pattern)
  /-- `p`, or else `q`. -/
  | alt (p q : Pattern)
  /-- `p` one or more times: as often as possible if greedy, else as seldom. -/
  | plus (greedy : Bool) (p : Pattern)
  /-- `p` so many times. -/
  | exactly (n : Nat) (p : Pattern)
  /-- `p` so many times or fewer: as often as possible if greedy, else as seldom. -/
  | atMost (greedy : Bool) (n : Nat) (p : Pattern)
  deriving DecidableEq, Repr, Inhabited

/-! ## Lists of positions -/

namespace Cursor

/-- The positions that `seen` does not have, each of them once. -/
def unseen (seen : Std.HashSet Nat) : List Cursor → List Cursor
  | [] => []
  | cur :: rest =>
    if seen.contains cur.consumed then unseen seen rest
    else cur :: unseen (seen.insert cur.consumed) rest

/-- Every position once, where it stands first. -/
def distinct : List Cursor → List Cursor
  | [] => []
  | [cur] => [cur]
  | several => unseen ∅ several

/-- The positions after one, two, … characters of a set, nearest first, in front of those of
`before`. -/
def after (set : CharSet) (cur : Cursor) : List Char → List Cursor → List Cursor
  | [], before => before
  | c :: rest, before =>
    if set.contains c then
      let next := cur.advance c rest
      after set next rest (next :: before)
    else before

/-- The positions after `n` steps: each step goes on from every position of the one before. -/
def steps (step : Cursor → List Cursor) : Nat → List Cursor → List Cursor
  | 0, here => here
  | _, [] => []
  | n + 1, here => steps step n (distinct (here.flatMap step))

end Cursor

/-- The positions that repetitions have reached. -/
structure Reached where
  /-- Where a repetition has begun or ended. -/
  seen : Std.HashSet Nat := ∅
  /-- The ends found, the one found last in front. -/
  found : List Cursor := []

namespace Reached

/-- A position where the repetitions may end. -/
def add (r : Reached) (cur : Cursor) : Reached := { r with found := cur :: r.found }

/-- A position that is reached now. -/
def mark (r : Reached) (cur : Cursor) : Reached := { r with seen := r.seen.insert cur.consumed }

/-- What is reached from the end of a repetition on, which is marked. Each further one must consume
something, so `fuel`, the text left, is long enough. -/
def again (step : Cursor → List Cursor) (greedy : Bool) : List Char → Cursor → Reached → Reached
  | [], cur, r => r.add cur
  | _ :: fuel, cur, r =>
    let visit := fun (r : Reached) (next : Cursor) =>
      if cur.consumed < next.consumed && !r.seen.contains next.consumed then
        again step greedy fuel next (r.mark next)
      else r
    if greedy then ((step cur).foldl visit r).add cur
    else (step cur).foldl visit (r.add cur)

/-- What one or more repetitions reach from a position. After a first one that consumes nothing
there is no other. -/
def repeated (step : Cursor → List Cursor) (greedy : Bool) (cur : Cursor) : Reached :=
  (step cur).foldl
    (fun r next =>
      if r.seen.contains next.consumed then r
      else
        again step greedy (if cur.consumed < next.consumed then next.rest else []) next
          (r.mark next))
    {}

end Reached

/-- The positions that at most `n` repetitions reach. `seen` has, for each number of repetitions
left, the places reached with it; `found` has the ends, the one found last in front. -/
def upTo (step : Cursor → List Cursor) (greedy : Bool) :
    Nat → Cursor → List (Std.HashSet Nat) → List Cursor → List Cursor × List (Std.HashSet Nat)
  | 0, cur, seen, found => (cur :: found, seen)
  | n + 1, cur, seen, found =>
    let visit := fun (state : List Cursor × List (Std.HashSet Nat)) (next : Cursor) =>
      let here := state.2.headD ∅
      if here.contains next.consumed then state
      else
        let (found, deeper) := upTo step greedy n next state.2.tail state.1
        (found, here.insert next.consumed :: deeper)
    if greedy then
      let (found, seen) := (step cur).foldl visit (found, seen)
      (cur :: found, seen)
    else (step cur).foldl visit (cur :: found, seen)

namespace Pattern

/-- `p` or nothing. -/
def opt (greedy : Bool) (p : Pattern) : Pattern :=
  if greedy then .alt p .empty else .alt .empty p

/-- `p` any number of times. -/
def star (greedy : Bool) (p : Pattern) : Pattern := opt greedy (.plus greedy p)

/-- The patterns one after the other. -/
def seqAll : List Pattern → Pattern
  | [] => .empty
  | [p] => p
  | p :: rest => .seq p (seqAll rest)

/-- The first of the patterns that leads to a match. -/
def altAll : List Pattern → Pattern
  | [] => .one .nothing
  | [p] => p
  | p :: rest => .alt p (altAll rest)

/-- Exactly this text. -/
def literal (s : String) : Pattern := seqAll (s.toList.map fun c => .one (.single c))

/-- `p` at least `n` times, and at most `limit` times if there is a limit. -/
def times (greedy : Bool) (p : Pattern) (n : Nat) (limit : Option Nat) : Pattern :=
  match limit with
  | some m => if m ≤ n then .exactly n p else .seq (.exactly n p) (.atMost greedy (m - n) p)
  | none =>
    match n with
    | 0 => star greedy p
    | k + 1 => .seq (.exactly k p) (.plus greedy p)

/-- The positions where the pattern can end from a position on, the preferred ones first. -/
def ends : Pattern → Cursor → List Cursor
  | empty, cur => [cur]
  | one set, cur =>
    match cur.rest with
    | [] => []
    | c :: rest => if set.contains c then [cur.advance c rest] else []
  | look condition, cur => if condition.holds cur then [cur] else []
  | seq p q, cur => Cursor.distinct ((p.ends cur).flatMap q.ends)
  | alt p q, cur => Cursor.distinct (p.ends cur ++ q.ends cur)
  | plus greedy (.one set), cur =>
    let farthestFirst := Cursor.after set cur cur.rest []
    if greedy then farthestFirst else farthestFirst.reverse
  | plus greedy p, cur => (Reached.repeated p.ends greedy cur).found.reverse
  | exactly n p, cur => Cursor.steps p.ends n [cur]
  | atMost greedy n p, cur => Cursor.distinct (upTo p.ends greedy n cur [] []).1.reverse

/-- The end of the match at a position. -/
def matchAt? (p : Pattern) (cur : Cursor) : Option Cursor := (p.ends cur).head?

/-- The pattern can match only at the start of the text. -/
def isAnchored : Pattern → Bool
  | look .textStart => true
  | seq p _ => p.isAnchored
  | alt p q => p.isAnchored && q.isAnchored
  | plus _ p => p.isAnchored
  | exactly n p => n != 0 && p.isAnchored
  | _ => false

/-- The match that begins at a position. -/
def found? (p : Pattern) (cur : Cursor) : Option Match :=
  (p.matchAt? cur).map fun stop => ⟨cur.consumed, stop⟩

/-- The match at the leftmost position that has one; the text begins after the character `before`,
and after `consumed` characters. -/
def search (p : Pattern) (before : Option Char) (consumed : Nat) : List Char → Option Match
  | [] => p.found? ⟨before, consumed, []⟩
  | c :: rest =>
    match p.found? ⟨before, consumed, c :: rest⟩ with
    | some m => some m
    | none => search p (some c) (consumed + 1) rest

/-- The leftmost match in a text. -/
def find? (p : Pattern) (text : List Char) : Option Match :=
  if p.isAnchored then p.found? (.start text) else p.search none 0 text

end Pattern

end LiterateSite
