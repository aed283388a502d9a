import Mathlib.Logic.Relation
import LiterateSite.Proofs.Files.Last
import LiterateSite.Proofs.Site.History
import LiterateSite.Proofs.Site.Places

/-!
# Calls that are cut off

A call for a transcript can be cut off after any of its steps, and while it writes a file. What it
leaves then is found by the calls that come after it.

* `Stage`, `callStep`: the steps of a call. `steps_ensureFresh`: **a call that is not cut off does
  what its steps do.**
* `World`, `Moves`: calls for one example that follow each other, each of them cut off or not.
* `Backed`, `Vouched`: **a digest that is there vouches for the transcript beside it**: it is the
  one of a completed run, and there is all of it.
* `World.Safe`, `World.Safe.moves`: the invariant, and that it is kept by whatever may happen.
* `digest_vouches_for_transcript`: **no interruption leaves a digest beside a transcript that is not
  its own, or is not whole.**
-/

namespace LiterateSite.Site

open Files Files.Tree Text

/-! ## Steps -/

/-- What a call does next. -/
inductive Stage where
  /-- Look at the kept digest. -/
  | digest
  /-- Look at the kept transcript; the digest is the one that is looked for. -/
  | transcript
  /-- Remove the kept digest. -/
  | clear (status : Status)
  /-- Run the example. -/
  | run (status : Status)
  /-- Write the transcript. -/
  | store (status : Status) (output : List UInt8)
  /-- Write the digest. -/
  | sign (status : Status) (output : List UInt8)
  /-- Nothing, since the call has ended. -/
  | ended (r : Except BuildError Transcript)

/-- **One step of a call**, which looks at a file, changes one, or runs the example. -/
def callStep (runner : Runner) (e : Entry) (source : List UInt8) : Stage × Session → Stage × Session
  | (.digest, s) =>
    match readOptional s.files e.hashPath with
    | .error err => (.ended (.error err), s)
    | .ok none => (.clear .fresh, s.reporting (Status.fresh.event e.id))
    | .ok (some known) =>
      if trim known == (sourceDigest e.id source).toList then (.transcript, s)
      else (.clear .stale, s.reporting (Status.stale.event e.id))
  | (.transcript, s) =>
    match readOptional s.files e.transcriptPath with
    | .error err => (.ended (.error err), s)
    | .ok none => (.clear .incomplete, s.reporting (Status.incomplete.event e.id))
    | .ok (some text) =>
      (.ended (.ok ⟨text, sourceDigest e.id source, .hit⟩), s.reporting (Status.hit.event e.id))
  | (.clear status, s) =>
    match removeIfThere s.files e.hashPath with
    | .error err => (.ended (.error (.io e.hashPath err)), s)
    | .ok t => (.run status, { s with files := t })
  | (.run status, s) =>
    match (runner.run s.files e.source).result with
    | .error err => (.ended (.error (.execution err)), s.ran runner e.source)
    | .ok output => (.store status output, s.ran runner e.source)
  | (.store status output, s) =>
    match s.files.write e.transcriptPath (Utf8.encode (transcriptText e.id output)) with
    | .error err => (.ended (.error (.io e.transcriptPath err)), s)
    | .ok t => (.sign status output, { s with files := t })
  | (.sign status output, s) =>
    match s.files.write e.hashPath (Utf8.ofString (sourceDigest e.id source)) with
    | .error err => (.ended (.error (.io e.hashPath err)), s)
    | .ok t =>
      (.ended (.ok ⟨transcriptText e.id output, sourceDigest e.id source, status⟩),
        { s with files := t })
  | (.ended r, s) => (.ended r, s)

/-- The file that is being written, with all that is to be in it. -/
def Stage.writes? (e : Entry) (source : List UInt8) : Stage → Option (Path × List UInt8)
  | .store _ output => some (e.transcriptPath, Utf8.encode (transcriptText e.id output))
  | .sign _ _ => some (e.hashPath, Utf8.ofString (sourceDigest e.id source))
  | _ => none

variable {e : Entry} {source : List UInt8} {runner : Runner} {s : Session} {t t' : Tree}
  {status : Status}

theorem steps_ended (r : Except BuildError Transcript) (n : Nat) :
    (callStep runner e source)^[n] (.ended r, s) = (.ended r, s) :=
  Function.iterate_fixed rfl n

/-- **The steps of a run** whose transcript is to be kept. -/
theorem steps_refresh (status : Status) (s : Session) :
    (callStep runner e source)^[4] (.clear status, s) =
      (.ended ((refresh runner e (sourceDigest e.id source) s).1.map fun text =>
        ⟨text, sourceDigest e.id source, status⟩),
        (refresh runner e (sourceDigest e.id source) s).2) := by
  obtain ⟨r, s', hrun, hr⟩ := refresh_cases runner e (sourceDigest e.id source) s
  rw [hrun]
  cases hr with
  | stuck hd =>
    rw [Function.iterate_succ_apply, callStep, hd]
    exact steps_ended _ 3
  | failed hd ho =>
    rw [Function.iterate_succ_apply, callStep, hd, Function.iterate_succ_apply, callStep]
    simp only [ho]
    exact steps_ended _ 2
  | unwritten hd ho hx =>
    rw [Function.iterate_succ_apply, callStep, hd, Function.iterate_succ_apply, callStep]
    simp only [ho]
    rw [Function.iterate_succ_apply, callStep]
    simp only [Session.ran, hx]
    exact steps_ended _ 1
  | unsealed hd ho hx hh =>
    rw [Function.iterate_succ_apply, callStep, hd, Function.iterate_succ_apply, callStep]
    simp only [ho]
    rw [Function.iterate_succ_apply, callStep]
    simp only [Session.ran, hx]
    rw [Function.iterate_succ_apply, callStep]
    simp only [hh]
    exact steps_ended _ 0
  | done hd ho hx hh =>
    rw [Function.iterate_succ_apply, callStep, hd, Function.iterate_succ_apply, callStep]
    simp only [ho]
    rw [Function.iterate_succ_apply, callStep]
    simp only [Session.ran, hx]
    rw [Function.iterate_succ_apply, callStep]
    simp only [hh]
    exact steps_ended _ 0

/-- **A call that is not cut off** does what its steps do. There are six of them at most. -/
theorem steps_ensureFresh (runner : Runner) (e : Entry) (source : List UInt8) (s : Session) :
    (callStep runner e source)^[6] (.digest, s) =
      (.ended (ensureFresh runner e source s).1, (ensureFresh runner e source s).2) := by
  have hmiss : ∀ {status : Status} {old : List Char}, status ≠ .hit →
      lookUp s.files e (sourceDigest e.id source) = .ok (status, old) →
      (callStep runner e source)^[4] (.clear status, s.reporting (status.event e.id)) =
        (.ended (ensureFresh runner e source s).1, (ensureFresh runner e source s).2) := by
    intro status old hs hl
    rw [steps_refresh, ensureFresh_of_miss hs hl]
  rw [Function.iterate_succ_apply, callStep]
  cases hh : readOptional s.files e.hashPath with
  | error err =>
    have hl : lookUp s.files e (sourceDigest e.id source) = .error err := by
      unfold lookUp
      rw [hh]
    rw [ensureFresh_of_error hl]
    exact steps_ended _ 5
  | ok found =>
    cases found with
    | none =>
      -- a call that looks at one file only has nothing left to do after five steps
      have hl : lookUp s.files e (sourceDigest e.id source) = .ok (.fresh, []) := by
        unfold lookUp
        rw [hh]
      rw [Function.iterate_succ_apply', hmiss (by decide) hl]
      rfl
    | some known =>
      simp only
      by_cases hd : (trim known == (sourceDigest e.id source).toList) = true
      · rw [if_pos hd, Function.iterate_succ_apply, callStep]
        cases hx : readOptional s.files e.transcriptPath with
        | error err =>
          have hl : lookUp s.files e (sourceDigest e.id source) = .error err := by
            unfold lookUp
            simp only [hh, if_pos hd, hx]
          rw [ensureFresh_of_error hl]
          exact steps_ended _ 4
        | ok found =>
          cases found with
          | none =>
            have hl : lookUp s.files e (sourceDigest e.id source) = .ok (.incomplete, []) := by
              unfold lookUp
              simp only [hh, if_pos hd, hx]
            exact hmiss (by decide) hl
          | some text =>
            have hl : lookUp s.files e (sourceDigest e.id source) = .ok (.hit, text) := by
              unfold lookUp
              simp only [hh, if_pos hd, hx]
            rw [ensureFresh_of_hit _ hl]
            exact steps_ended _ 4
      · have hl : lookUp s.files e (sourceDigest e.id source) = .ok (.stale, []) := by
          unfold lookUp
          simp only [hh, if_neg hd]
        rw [if_neg hd, Function.iterate_succ_apply', hmiss (by decide) hl]
        rfl

/-! ## Calls that follow each other -/

/-- A call that is under way. -/
structure Call where
  source : List UInt8
  runner : Runner
  stage : Stage := .digest

/-- The files, the call that is under way, and the runs that have been completed. -/
structure World where
  session : Session
  call : Option Call := none
  completed : List Run := []

/-- The run that is completed by a step, if it is a run and succeeds. -/
def Stage.completes (runner : Runner) (e : Entry) (source : List UInt8) (t : Tree) :
    Stage → List Run
  | .run _ => ((runner.run t e.source).result.toOption.map (Run.mk e source)).toList
  | _ => []

namespace World

/-- The next step of the call that is under way. -/
def goOn (e : Entry) (v : World) : World :=
  match v.call with
  | none => v
  | some c =>
    { session := (callStep c.runner e c.source (c.stage, v.session)).2
      call := some { c with stage := (callStep c.runner e c.source (c.stage, v.session)).1 }
      completed := c.stage.completes c.runner e c.source v.session.files ++ v.completed }

/-- The file that is being written, with all that is to be in it. -/
def writes? (e : Entry) (v : World) : Option (Path × List UInt8) :=
  v.call.bind fun c => c.stage.writes? e c.source

end World

/-- **What may happen** to the kept files of an example. A call begins, with any source; it goes on;
it is cut off while it writes a file, of which there are some first bytes then; or it is cut off
between two steps, or has ended. A runner leaves the kept files alone. -/
inductive Moves (e : Entry) : World → World → Prop
  | begins (v : World) (source : List UInt8) (runner : Runner) (hv : v.call = none)
    (hr : runner.Spares {e}) : Moves e v { v with call := some { source, runner } }
  | goesOn (v : World) : Moves e v (v.goOn e)
  | tears (v : World) {p : Path} {content : List UInt8} (hp : v.writes? e = some (p, content))
    (n : Nat) {t : Tree} (hw : v.session.files.write p (content.take n) = .ok t) :
    Moves e v { v with session := { v.session with files := t }, call := none }
  | ceases (v : World) : Moves e v { v with call := none }

/-- Among the runs there is one of the example for a source with the digest, and the text is the
transcript of its output. -/
def Backed (e : Entry) (completed : List Run) (digest : String) (text : List Char) : Prop :=
  ∃ run ∈ completed, run.entry = e ∧ sourceDigest e.id run.source = digest ∧
    text = prompt e.id ++ Utf8.decodeLossy run.output

/-- **A digest vouches for the transcript** that is beside it. -/
def Vouched (e : Entry) (completed : List Run) (t : Tree) : Prop :=
  ∀ source known, t.content? e.hashPath = some known →
    trim (Utf8.decodeLossy known) = (sourceDigest e.id source).toList →
      ∃ text, Backed e completed (sourceDigest e.id source) text ∧
        t.content? e.transcriptPath = some (Utf8.encode text)

/-- What holds at the stages of a call for a source. -/
def Stage.Holds (e : Entry) (source : List UInt8) (completed : List Run) (t : Tree) : Stage → Prop
  | .digest => True
  | .transcript => ∃ known, t.content? e.hashPath = some known ∧
      trim (Utf8.decodeLossy known) = (sourceDigest e.id source).toList
  | .clear _ => True
  | .run _ => t.content? e.hashPath = none
  | .store _ output => t.content? e.hashPath = none ∧
      Backed e completed (sourceDigest e.id source) (transcriptText e.id output)
  | .sign _ output => t.content? e.hashPath = none ∧
      Backed e completed (sourceDigest e.id source) (transcriptText e.id output) ∧
      t.content? e.transcriptPath = some (Utf8.encode (transcriptText e.id output))
  | .ended r => ∀ x, r = .ok x →
      x.digest = sourceDigest e.id source ∧ Backed e completed x.digest x.text

/-- **The invariant of a call** at a stage. -/
structure Sound (e : Entry) (source : List UInt8) (completed : List Run) (x : Stage × Session) :
    Prop where
  apart : Apart {e} x.2.files
  vouched : Vouched e completed x.2.files
  holds : x.1.Holds e source completed x.2.files

/-- **The invariant.** -/
structure World.Safe (e : Entry) (v : World) : Prop where
  apart : Apart {e} v.session.files
  vouched : Vouched e v.completed v.session.files
  under_way : ∀ c, v.call = some c → c.runner.Spares {e} ∧
    c.stage.Holds e c.source v.completed v.session.files

variable {v v' : World} {c : Call} {completed : List Run} {digest : String} {text : List Char}

/-- Without a digest there is nothing to vouch for. -/
theorem vouched_of_none (h : t.content? e.hashPath = none) : Vouched e completed t := by
  intro source known hk
  exact absurd (hk.symm.trans h) (Option.some_ne_none _)

/-- **A digest that has been written, or the first bytes of it**, vouches for the transcript that
has been written before. -/
theorem Apart.vouched_written (ha : Apart {e} t)
    (hb : Backed e completed (sourceDigest e.id source) text)
    (hx : t.content? e.transcriptPath = some (Utf8.encode text)) {n : Nat}
    (hw : t.write e.hashPath ((Utf8.ofString (sourceDigest e.id source)).take n) = .ok t') :
    Apart {e} t' ∧ Vouched e completed t' := by
  obtain ⟨hconf, hhere, hother⟩ := ha.digest_written rfl hw
  refine ⟨hconf.apart, fun source' known hk hd => ?_⟩
  rw [hhere] at hk
  rw [← Option.some.inj hk] at hd
  -- some first bytes of the digest are none, unless they are all of it
  rw [kept_beginning hd, kept_digest_iff] at hd
  exact ⟨text, hd ▸ hb, hother.trans hx⟩

theorem Apart.transcript_apart (ha : Apart {e} t) {content : List UInt8}
    (hw : t.write e.transcriptPath content = .ok t') (hn : t.content? e.hashPath = none) :
    Apart {e} t' ∧ t'.content? e.hashPath = none ∧
      t'.content? e.transcriptPath = some content := by
  obtain ⟨hconf, hhere, hother⟩ := ha.transcript_written rfl hw
  exact ⟨hconf.apart, hother.trans hn, hhere⟩

/-! ## One step -/

section step

variable (hr : runner.Spares {e})

theorem sound_failed (ha : Apart {e} s.files) (hv : Vouched e completed s.files) (err : BuildError) :
    Sound e source completed (.ended (.error err), s) := ⟨ha, hv, fun x hx => by cases hx⟩

theorem sound_digest (h : Sound e source completed (.digest, s)) :
    Sound e source completed (callStep runner e source (.digest, s)) := by
  rw [callStep]
  cases hh : readOptional s.files e.hashPath with
  | error err => exact sound_failed h.apart h.vouched err
  | ok found =>
    cases found with
    | none => exact ⟨h.apart, h.vouched, trivial⟩
    | some known =>
      obtain ⟨bytes, hb, rfl⟩ := readOptional_some hh
      simp only
      split
      · next hd => exact ⟨h.apart, h.vouched, bytes, hb, beq_iff_eq.1 hd⟩
      · exact ⟨h.apart, h.vouched, trivial⟩

/-- **A hit** gives what the digest vouches for. -/
theorem sound_transcript (h : Sound e source completed (.transcript, s)) :
    Sound e source completed (callStep runner e source (.transcript, s)) := by
  obtain ⟨known, hk, hd⟩ := h.holds
  rw [callStep]
  cases hx : readOptional s.files e.transcriptPath with
  | error err => exact sound_failed h.apart h.vouched err
  | ok found =>
    cases found with
    | none => exact ⟨h.apart, h.vouched, trivial⟩
    | some text =>
      refine ⟨h.apart, h.vouched, fun x hx' => ?_⟩
      obtain rfl := Except.ok.inj hx'
      obtain ⟨bytes, hb, rfl⟩ := readOptional_some hx
      obtain ⟨text, hback, ht⟩ := h.vouched source known hk hd
      obtain rfl := Option.some.inj (hb.symm.trans ht)
      refine ⟨rfl, ?_⟩
      rw [Utf8.decodeLossy_encode]
      exact hback

theorem sound_clear (h : Sound e source completed (.clear status, s)) :
    Sound e source completed (callStep runner e source (.clear status, s)) := by
  rw [callStep]
  cases hd : removeIfThere s.files e.hashPath with
  | error err => exact sound_failed h.apart h.vouched _
  | ok t =>
    obtain ⟨hconf, hn⟩ := h.apart.removed rfl hd
    exact ⟨hconf.apart, vouched_of_none hn, hn⟩

include hr in
theorem sound_run (h : Sound e source completed (.run status, s)) :
    Sound e source ((Stage.run status).completes runner e source s.files ++ completed)
      (callStep runner e source (.run status, s)) := by
  obtain ⟨ha, hkept⟩ := hr s.files e.source h.apart
  have hn : (s.ran runner e.source).files.content? e.hashPath = none :=
    (hkept e rfl .digest).trans h.holds
  have ha : Apart {e} (s.ran runner e.source).files := ha
  rw [callStep]
  cases ho : (runner.run s.files e.source).result with
  | error err => exact sound_failed ha (vouched_of_none hn) _
  | ok output =>
    have hmem : ⟨e, source, output⟩ ∈
        (Stage.run status).completes runner e source s.files ++ completed := by
      unfold Stage.completes
      rw [ho]
      exact List.mem_append_left _ List.mem_cons_self
    have hback : Backed e ((Stage.run status).completes runner e source s.files ++ completed)
        (sourceDigest e.id source) (transcriptText e.id output) := ⟨_, hmem, rfl, rfl, rfl⟩
    exact ⟨ha, vouched_of_none hn, hn, hback⟩

theorem sound_store {output : List UInt8} (h : Sound e source completed (.store status output, s)) :
    Sound e source completed (callStep runner e source (.store status output, s)) := by
  obtain ⟨hn, hback⟩ := h.holds
  rw [callStep]
  cases hw : s.files.write e.transcriptPath (Utf8.encode (transcriptText e.id output)) with
  | error err => exact sound_failed h.apart h.vouched _
  | ok t =>
    obtain ⟨ha, hn', ht⟩ := h.apart.transcript_apart hw hn
    exact ⟨ha, vouched_of_none hn', hn', hback, ht⟩

theorem sound_sign {output : List UInt8} (h : Sound e source completed (.sign status output, s)) :
    Sound e source completed (callStep runner e source (.sign status output, s)) := by
  obtain ⟨-, hback, ht⟩ := h.holds
  rw [callStep]
  cases hw : s.files.write e.hashPath (Utf8.ofString (sourceDigest e.id source)) with
  | error err => exact sound_failed h.apart h.vouched _
  | ok t =>
    rw [← List.take_length (l := Utf8.ofString (sourceDigest e.id source))] at hw
    obtain ⟨ha, hv⟩ := h.apart.vouched_written hback ht hw
    refine ⟨ha, hv, fun x hx => ?_⟩
    obtain rfl := Except.ok.inj hx
    exact ⟨rfl, hback⟩

include hr in
/-- **Each step of a call keeps the invariant.** -/
theorem sound_step {stage : Stage} (h : Sound e source completed (stage, s)) :
    Sound e source (stage.completes runner e source s.files ++ completed)
      (callStep runner e source (stage, s)) := by
  cases stage with
  | digest => exact sound_digest h
  | transcript => exact sound_transcript h
  | clear status => exact sound_clear h
  | run status => exact sound_run hr h
  | store status output => exact sound_store h
  | sign status output => exact sound_sign h
  | ended r => exact h

end step

/-! ## One move -/

namespace World.Safe

theorem begins (h : v.Safe e) (hr : runner.Spares {e}) (source : List UInt8) :
    Safe e { v with call := some { source, runner } } := by
  refine ⟨h.apart, h.vouched, fun c hc => ?_⟩
  obtain rfl := Option.some.inj hc
  exact ⟨hr, trivial⟩

theorem ceases (h : v.Safe e) : Safe e { v with call := none } :=
  ⟨h.apart, h.vouched, fun _ hc => by cases hc⟩

theorem goesOn (h : v.Safe e) : Safe e (v.goOn e) := by
  unfold goOn
  cases hc : v.call with
  | none => exact h
  | some c =>
    obtain ⟨hr, hholds⟩ := h.under_way c hc
    have hstep := sound_step hr ⟨h.apart, h.vouched, hholds⟩
    refine ⟨hstep.apart, hstep.vouched, fun c' hc' => ?_⟩
    obtain rfl := Option.some.inj hc'
    exact ⟨hr, hstep.holds⟩

/-- **A write that is cut off** leaves no digest, or one that vouches for the transcript. -/
theorem tears (h : v.Safe e) {p : Path} {content : List UInt8}
    (hp : v.writes? e = some (p, content)) {n : Nat}
    (hw : v.session.files.write p (content.take n) = .ok t) :
    Safe e { v with session := { v.session with files := t }, call := none } := by
  obtain ⟨c, hc, hp⟩ := Option.bind_eq_some_iff.1 hp
  obtain ⟨-, hholds⟩ := h.under_way c hc
  suffices hend : Apart {e} t ∧ Vouched e v.completed t from
    ⟨hend.1, hend.2, fun _ hc => by cases hc⟩
  generalize c.stage = stage at hp hholds
  cases stage with
  | store status output =>
    cases hp
    obtain ⟨ha, hn, -⟩ := h.apart.transcript_apart hw hholds.1
    exact ⟨ha, vouched_of_none hn⟩
  | sign status output =>
    cases hp
    exact h.apart.vouched_written hholds.2.1 hholds.2.2 hw
  | _ => cases hp

/-- **Whatever happens keeps the invariant.** -/
theorem moves (h : v.Safe e) (hm : Moves e v v') : Safe e v' := by
  cases hm with
  | begins source runner hv hr => exact h.begins hr source
  | goesOn => exact h.goesOn
  | tears hp n hw => exact h.tears hp hw
  | ceases => exact h.ceases

/-- **The invariant holds at all times.** -/
theorem history (h : v.Safe e) (hm : Relation.ReflTransGen (Moves e) v v') : Safe e v' := by
  induction hm with
  | refl => exact h
  | tail _ hm ih => exact ih.moves hm

end World.Safe

/-! ## The beginning -/

/-- Where the kept files of an entry are: the paths differ in the end of their last name. -/
theorem Entry.kept_chars (e : Entry) : ∃ chars, ∀ k : Kept,
    e.kept k = ⟨chars ++ '.' :: k.suffix.toList⟩ := by
  have hname : ∀ k : Kept, e.kept k = e.directory.join ⟨e.id.toList ++ '.' :: k.suffix.toList⟩ := by
    intro k
    cases k <;> simp [Entry.kept, Entry.hashPath, Entry.transcriptPath, Entry.sidecar, Kept.suffix,
      Path.ofString]
  have habs : ∀ k : Kept, (⟨e.id.toList ++ '.' :: k.suffix.toList⟩ : Path).isAbsolute =
      (⟨e.id.toList ++ ['.']⟩ : Path).isAbsolute := fun k =>
    Path.isAbsolute_extended (by cases k <;> decide) (by decide)
  -- the name stands for itself, or is put after the directory, with a slash between them or not
  by_cases ha : (⟨e.id.toList ++ ['.']⟩ : Path).isAbsolute = true
  · refine ⟨e.id.toList, fun k => ?_⟩
    rw [hname, Path.join, habs, if_pos ha]
  · by_cases hd : (e.directory.chars.isEmpty || e.directory.chars.getLast? == some '/') = true
    · refine ⟨e.directory.chars ++ e.id.toList, fun k => ?_⟩
      rw [hname, Path.join, habs, if_neg ha, if_pos hd, List.append_assoc]
    · refine ⟨e.directory.chars ++ '/' :: e.id.toList, fun k => ?_⟩
      rw [hname, Path.join, habs, if_neg ha, if_neg hd, List.append_assoc, List.cons_append]

section nothing

variable (hn : ∀ k l, t.place? (e.kept k) false = some l → t.get? l = none)

include hn

theorem plain_of_nothing (k : Kept) : t.Plain (e.kept k) := by
  intro l hl
  unfold shapeAt
  rw [hn k l hl]

/-- **If there is nothing at the ends of the paths**, the kept files do not get into each other's
way. -/
theorem apart_of_nothing : Apart {e} t := by
  refine apart_singleton (plain_of_nothing hn) ?_
  obtain ⟨chars, hk⟩ := e.kept_chars
  have h₁ := plain_of_nothing hn .digest
  have h₂ := plain_of_nothing hn .transcript
  rw [hk] at h₁ h₂ ⊢
  rw [hk]
  exact parted_extended (by decide) (by decide) (by decide) (by decide) (by decide) h₁ h₂

theorem content?_of_nothing (k : Kept) : t.content? (e.kept k) = none := by
  rw [content?_eq, (plain_of_nothing hn k).place?_eq_noFollow]
  cases hl : t.place? (e.kept k) false with
  | none => rfl
  | some l =>
    rw [Option.bind_some]
    unfold fileAt?
    rw [hn k l hl]

end nothing

/-- **Interruptions do no harm.** An example has nothing kept at first. Its transcript is called for
any number of times, for any sources; each call takes the steps that it is made of, one after the
other, and may be cut off after any of them, or while it writes a file, of which any first bytes are
there then. At every time, in the middle of a call, too: a digest of a source that is there stands
beside the whole transcript of a completed run, which was one of a source with that digest. So a hit
never gives anything else than such a transcript, and a call that ends well does not, either. -/
theorem digest_vouches_for_transcript (e : Entry) (t : Tree)
    (hn : ∀ k l, t.place? (e.kept k) false = some l → t.get? l = none) :
    (∀ runner source s, (callStep runner e source)^[6] (.digest, s) =
        (.ended (ensureFresh runner e source s).1, (ensureFresh runner e source s).2)) ∧
      ∀ v, Relation.ReflTransGen (Moves e) { session := { files := t } } v →
        (∀ source known, v.session.files.content? e.hashPath = some known →
          trim (Utf8.decodeLossy known) = (sourceDigest e.id source).toList →
            ∃ run ∈ v.completed, run.entry = e ∧
              sourceDigest e.id run.source = sourceDigest e.id source ∧
              v.session.files.content? e.transcriptPath =
                some (Utf8.encode (prompt e.id ++ Utf8.decodeLossy run.output))) ∧
        (∀ runner source x s', ensureFresh runner e source v.session = (.ok x, s') →
          x.status = .hit → ∃ run ∈ v.completed, run.entry = e ∧
            sourceDigest e.id run.source = sourceDigest e.id source ∧
            x.text = prompt e.id ++ Utf8.decodeLossy run.output) ∧
        ∀ c x, v.call = some c → c.stage = .ended (.ok x) → ∃ run ∈ v.completed, run.entry = e ∧
          sourceDigest e.id run.source = sourceDigest e.id c.source ∧
          x.text = prompt e.id ++ Utf8.decodeLossy run.output := by
  have hstart : World.Safe e { session := { files := t } } :=
    ⟨apart_of_nothing hn, vouched_of_none (content?_of_nothing hn .digest), fun c hc => by cases hc⟩
  refine ⟨fun runner source s => steps_ensureFresh runner e source s, fun v hv => ?_⟩
  have hsafe := hstart.history hv
  refine ⟨fun source known hk hd => ?_, fun runner source x s' hx hs => ?_, fun c x hc hs => ?_⟩
  · obtain ⟨text, ⟨run, hrun, he, hsame, rfl⟩, ht⟩ := hsafe.vouched source known hk hd
    exact ⟨run, hrun, he, hsame, ht⟩
  · cases ensured hx with
    | hit hl =>
      obtain ⟨known, bytes, hk, hd, hb, rfl⟩ := lookUp_hit hl
      obtain ⟨text, ⟨run, hrun, he, hsame, rfl⟩, ht⟩ := hsafe.vouched source known hk hd
      refine ⟨run, hrun, he, hsame, ?_⟩
      rw [Option.some.inj (hb.symm.trans ht), Utf8.decodeLossy_encode]
    | renewed hne => exact absurd hs hne
  · have hholds := (hsafe.under_way c hc).2
    rw [hs] at hholds
    obtain ⟨hdigest, run, hrun, he, hsame, htext⟩ := hholds x rfl
    exact ⟨run, hrun, he, hsame.trans hdigest, htext⟩

/-- A call is cut off when it has written its digest, but has not ended. -/
theorem digest_vouches_for_transcript_torn :
    let t : Tree := { entries := [([.text ['a']], .directory)] }
    let a : Entry := ⟨"a", "A", ⟨['a']⟩, ⟨"a/a.js".toList⟩, none, none⟩
    let speaks : Runner := ⟨fun t _ => ⟨.ok [104, 105, 255], t, []⟩⟩
    let v : World := { session := { files := t }, call := some { source := [1], runner := speaks } }
    let digest := Utf8.ofString (sourceDigest "a" [1])
    let left : Tree := (((World.goOn a)^[4] v).session.files.write a.hashPath
      (digest.take 64)).toOption.getD t
    left.content? a.hashPath = some digest ∧
      ∃ run : Run, run.output = [104, 105, 255] ∧ left.content? a.transcriptPath =
        some (Utf8.encode (prompt "a" ++ Utf8.decodeLossy run.output)) := by
  intro t a speaks v digest left
  have hn : ∀ k l, t.place? (a.kept k) false = some l → t.get? l = none := by
    intro k
    cases k
    · show ∀ l ∈ t.place? (a.kept .digest) false, t.get? l = none
      decide +kernel
    · show ∀ l ∈ t.place? (a.kept .transcript) false, t.get? l = none
      decide +kernel
  have hspares : speaks.Spares {a} := Runner.spares_of_files (fun _ _ => rfl) _
  have hreach : ∀ n, Relation.ReflTransGen (Moves a) { session := { files := t } }
      ((World.goOn a)^[n] v) := by
    intro n
    induction n with
    | zero => exact .single (.begins _ [1] speaks rfl hspares)
    | succ n ih =>
      rw [Function.iterate_succ_apply']
      exact ih.tail (.goesOn _)
  have hwrites : ((World.goOn a)^[4] v).writes? a = some (a.hashPath, digest) := by
    decide +kernel
  have hleft : ((World.goOn a)^[4] v).session.files.write a.hashPath (digest.take 64) =
      .ok left := toOption_eq_some.1 (by decide +kernel)
  have hdigest : left.content? a.hashPath = some digest := by decide +kernel
  have htorn := (hreach 4).tail (.tears _ hwrites 64 hleft)
  obtain ⟨run, hrun, -, -, ht⟩ := ((digest_vouches_for_transcript a t hn).2 _ htorn).1 [1] digest
    hdigest ((kept_digest_iff "a" [1] [1]).2 rfl)
  have hone : ((World.goOn a)^[4] v).completed = [⟨a, [1], [104, 105, 255]⟩] := by decide +kernel
  have hmem : run ∈ ((World.goOn a)^[4] v).completed := hrun
  rw [hone] at hmem
  refine ⟨hdigest, run, ?_, ht⟩
  rw [List.mem_singleton.1 hmem]

end LiterateSite.Site
