import LiterateSite.Proofs.Site.Apart

/-!
# Histories of calls for transcripts

* `Act`: a call for the transcript of an example, or the loss of one of its kept files.
* `output?`: the output of the run that a call makes.
* `Past`, `Past.after`: the files and the runs so far, and what an act adds to them.
* `Past.Sound`, `sound_after`, `sound_history`: **kept files that are both there belong to the
  last successful run of their example**, at all times.
* `transcript_of_last_run`: **no call serves anything else than the transcript of the last
  successful run of its example, which was one of a source with the same digest.**
-/

namespace LiterateSite.Site

open Files Files.Tree Text

/-- A successful run of an example. -/
structure Run where
  entry : Entry
  source : List UInt8
  output : List UInt8
  deriving DecidableEq, Repr

/-- What may happen to kept files. -/
inductive Act where
  /-- A call for the transcript of a source. -/
  | call (e : Entry) (source : List UInt8) (runner : Runner)
  /-- Someone removes a kept file. -/
  | lose (e : Entry) (k : Kept)

/-- A call on files. -/
def callOn (t : Tree) (e : Entry) (source : List UInt8) (runner : Runner) :
    Except BuildError Transcript × Session :=
  ensureFresh runner e source { files := t }

/-- The output of the run that a call makes, if it makes one that succeeds. The digest has been
removed then. -/
def output? (t : Tree) (e : Entry) (source : List UInt8) (runner : Runner) : Option (List UInt8) :=
  if (callOn t e source runner).2.runs.isEmpty then none
  else (runner.run (without t e.hashPath) e.source).result.toOption

/-- What has happened so far: the files as they are now and the successful runs, the last one
first. -/
structure Past where
  files : Tree
  runs : List Run := []

namespace Past

/-- The last successful run of an example. -/
def last? (past : Past) (e : Entry) : Option Run := past.runs.find? (·.entry = e)

/-- What an act leaves. -/
def after (past : Past) : Act → Past
  | .call e source runner =>
    { files := (callOn past.files e source runner).2.files
      runs := ((output? past.files e source runner).map (Run.mk e source)).toList ++ past.runs }
  | .lose e k => { past with files := without past.files (e.kept k) }

/-- What a history of acts leaves. -/
def history (past : Past) (acts : List Act) : Past := acts.foldl after past

/-- The kept files of an example, if they are both there, belong to its last successful run. -/
def Settled (past : Past) (e : Entry) : Prop :=
  ∀ digest text, past.files.content? e.hashPath = some digest →
    past.files.content? e.transcriptPath = some text →
      ∃ run, past.last? e = some run ∧ digest = Utf8.ofString (sourceDigest e.id run.source) ∧
        text = Utf8.encode (transcriptText e.id run.output)

/-- **The invariant of histories.** -/
structure Sound (E : Set Entry) (past : Past) : Prop where
  apart : Apart E past.files
  settled : ∀ e ∈ E, past.Settled e

end Past

/-- The act concerns one of the examples, and a runner leaves their kept files alone. -/
def Act.Within (E : Set Entry) : Act → Prop
  | .call e _ runner => e ∈ E ∧ runner.Spares E
  | .lose e _ => e ∈ E

variable {E : Set Entry} {e : Entry} {runner : Runner} {source : List UInt8} {t t' : Tree}
  {past : Past}

/-! ## The run of a call -/

theorem output?_eq_none (h : (callOn t e source runner).2.runs = []) :
    output? t e source runner = none := by
  unfold output?
  rw [h]
  rfl

theorem output?_of_run (h : (callOn t e source runner).2.runs ≠ [])
    (hr : removeIfThere t e.hashPath = .ok t') :
    output? t e source runner = (runner.run t' e.source).result.toOption := by
  unfold output?
  rw [if_neg (by rwa [List.isEmpty_iff]), without_eq hr]

/-! ## One act -/

theorem callOn_ensured (t : Tree) (e : Entry) (source : List UInt8) (runner : Runner) :
    Ensured runner e source { files := t } (callOn t e source runner).1
      (callOn t e source runner).2 := ensured rfl

theorem callOn_confined (ha : Apart E t) (he : e ∈ E) (hr : runner.Spares E)
    (source : List UInt8) :
    Confined E e t (callOn t e source runner).2.files :=
  (callOn_ensured t e source runner).confined ha he hr

/-- What a call leaves of the kept files of its example: all as it was, and no run has succeeded; no
digest; or the digest and the transcript of the run that it has made. -/
theorem callOn_own (ha : Apart E t) (he : e ∈ E) (hr : runner.Spares E)
    (source : List UInt8) :
    ((callOn t e source runner).2.files = t ∧ output? t e source runner = none) ∨
      (callOn t e source runner).2.files.content? e.hashPath = none ∨
      ∃ output, output? t e source runner = some output ∧
        (callOn t e source runner).2.files.content? e.hashPath =
          some (Utf8.ofString (sourceDigest e.id source)) ∧
        (callOn t e source runner).2.files.content? e.transcriptPath =
          some (Utf8.encode (transcriptText e.id output)) := by
  rcases (callOn_ensured t e source runner).own ha he hr with
    ⟨hf, hn⟩ | ⟨t', hd, hruns, hnone | ⟨output, ho, hh, hx⟩⟩
  · exact .inl ⟨hf, output?_eq_none hn⟩
  · exact .inr (.inl hnone)
  · refine .inr (.inr ⟨output, ?_, hh, hx⟩)
    rw [output?_of_run (by rw [hruns]; simp) hd, ho]
    rfl

/-- **What a call that succeeds gives**: the text of the kept transcript, if the kept digest is the
one of the source; or the transcript of the run that it has made. -/
theorem callOn_ok {x : Transcript} (h : (callOn t e source runner).1 = .ok x) :
    x.digest = sourceDigest e.id source ∧
      ((output? t e source runner = none ∧ ∃ digest text, t.content? e.hashPath = some digest ∧
          trim (Utf8.decodeLossy digest) = (sourceDigest e.id source).toList ∧
          t.content? e.transcriptPath = some text ∧ x.text = Utf8.decodeLossy text) ∨
        ∃ output, output? t e source runner = some output ∧
          x.text = transcriptText e.id output) := by
  have hc := callOn_ensured t e source runner
  rw [h] at hc
  generalize hs' : (callOn t e source runner).2 = s' at hc
  -- of all ends only two are successes
  cases hc with
  | hit hl =>
    obtain ⟨digest, text, hh, hd, hx, rfl⟩ := lookUp_hit hl
    exact ⟨rfl, .inl ⟨output?_eq_none (by rw [hs']; rfl), digest, text, hh, hd, hx, rfl⟩⟩
  | renewed hs hl hr =>
    cases hr with
    | done hd ho hx hh =>
      have hruns : (callOn t e source runner).2.runs ≠ [] := by rw [hs']; simp [Session.ran]
      have hout := output?_of_run hruns hd
      rw [ho] at hout
      exact ⟨rfl, .inr ⟨_, hout, rfl⟩⟩

/-! ## Invariance -/

namespace Past

theorem after_call (past : Past) (e : Entry) (source : List UInt8) (runner : Runner) :
    (past.after (.call e source runner)).runs =
      ((output? past.files e source runner).map (Run.mk e source)).toList ++ past.runs := rfl

theorem last?_call_same {output : List UInt8}
    (h : output? past.files e source runner = some output) :
    (past.after (.call e source runner)).last? e = some ⟨e, source, output⟩ := by
  unfold last?
  rw [after_call, h]
  simp

theorem last?_call_none (h : output? past.files e source runner = none) (e' : Entry) :
    (past.after (.call e source runner)).last? e' = past.last? e' := by
  unfold last?
  rw [after_call, h]
  rfl

theorem last?_call_other {e' : Entry} (h : e' ≠ e) :
    (past.after (.call e source runner)).last? e' = past.last? e' := by
  unfold last?
  rw [after_call]
  cases output? past.files e source runner with
  | none => rfl
  | some output => simp [Ne.symm h]

/-- Nothing but the kept files and the last run of an example decides whether it is settled. -/
theorem Settled.congr {past' : Past} (h : past.Settled e)
    (hf : ∀ k, past'.files.content? (e.kept k) = past.files.content? (e.kept k))
    (hl : past'.last? e = past.last? e) : past'.Settled e := by
  intro digest text hd hx
  rw [hl]
  exact h digest text ((hf .digest).symm.trans hd) ((hf .transcript).symm.trans hx)

theorem sound_call (h : past.Sound E) (he : e ∈ E) (hr : runner.Spares E) :
    (past.after (.call e source runner)).Sound E := by
  have hc := callOn_confined h.apart he hr source
  refine ⟨hc.apart, fun e' he' => ?_⟩
  by_cases hee : e' = e
  · subst hee
    rcases callOn_own h.apart he hr source with
      ⟨hf, hn⟩ | hnone | ⟨output, ho, hh, hx⟩
    · refine (h.settled e' he).congr (fun k => ?_) (last?_call_none hn e')
      exact congrArg (content? · (e'.kept k)) hf
    · intro digest text hd _
      exact absurd (hd.symm.trans hnone) (Option.some_ne_none _)
    · intro digest text hd ht
      refine ⟨_, last?_call_same ho, ?_, ?_⟩
      · exact Option.some.inj (hd.symm.trans hh)
      · exact Option.some.inj (ht.symm.trans hx)
  · exact (h.settled e' he').congr (hc.others e' he' hee) (last?_call_other hee)

theorem sound_lose (h : past.Sound E) (he : e ∈ E) (k : Kept) :
    (past.after (.lose e k)).Sound E := by
  have hs : past.files.Sets (e.kept k) none (past.after (.lose e k)).files :=
    sets_without (h.apart.plain e he k)
  refine ⟨h.apart.sameShape hs.shape, fun e' he' digest text hd ht => ?_⟩
  -- a kept file that is there is not the one that has been lost
  have hkept : ∀ k' content, (past.after (.lose e k)).files.content? (e'.kept k') = some content →
      past.files.content? (e'.kept k') = some content := by
    intro k' content hc
    have hne : (e, k) ≠ (e', k') := by
      intro heq
      obtain ⟨rfl, rfl⟩ := Prod.mk.inj heq
      exact absurd (hc.symm.trans hs.here) (Option.some_ne_none _)
    rw [← h.apart.content?_sets he hs he' hne]
    exact hc
  exact h.settled e' he' digest text (hkept .digest _ hd) (hkept .transcript _ ht)

/-- **An act keeps the invariant.** -/
theorem sound_after {a : Act} (h : past.Sound E) (ha : a.Within E) : (past.after a).Sound E := by
  cases a with
  | call e source runner => exact sound_call h ha.1 ha.2
  | lose e k => exact sound_lose h ha k

/-- **A history keeps the invariant.** -/
theorem sound_history {acts : List Act} : ∀ {past : Past}, past.Sound E →
    (∀ a ∈ acts, a.Within E) → (past.history acts).Sound E := by
  induction acts with
  | nil => intro past h _; exact h
  | cons a rest ih =>
    intro past h ha
    exact ih (sound_after h (ha a List.mem_cons_self))
      fun b hb => ha b (List.mem_cons_of_mem _ hb)

/-- Without kept files the invariant holds. -/
theorem sound_start (ha : Apart E t) (hn : ∀ e ∈ E, ∀ k, t.content? (e.kept k) = none) :
    ({ files := t } : Past).Sound E := by
  refine ⟨ha, fun e he digest text hd _ => ?_⟩
  exact absurd (hd.symm.trans (hn e he .digest)) (Option.some_ne_none _)

/-- **A call on sound files** serves the last successful run of its example. -/
theorem Sound.served {x : Transcript} (h : past.Sound E) (he : e ∈ E)
    (hx : (callOn past.files e source runner).1 = .ok x) :
    x.digest = sourceDigest e.id source ∧
      ∃ run, (past.after (.call e source runner)).last? e = some run ∧
        x.text = prompt e.id ++ Utf8.decodeLossy run.output ∧
        sourceDigest e.id run.source = x.digest := by
  obtain ⟨hd, hcases⟩ := callOn_ok hx
  refine ⟨hd, ?_⟩
  -- a hit serves the last run, since the kept files are settled; else there has been a new one
  rcases hcases with ⟨hn, digest, text, hh, htrim, ht, htext⟩ | ⟨output, ho, htext⟩
  · obtain ⟨run, hl, rfl, rfl⟩ := h.settled e he digest text hh ht
    refine ⟨run, (last?_call_none hn e).trans hl, ?_, ?_⟩
    · rw [htext, Utf8.decodeLossy_encode]
      rfl
    · rw [(kept_digest_iff e.id run.source source).1 htrim, hd]
  · exact ⟨_, last?_call_same ho, htext, hd.symm⟩

end Past

/-- **No stale transcript is ever served.** Whatever calls and losses there have been since the
first one, a call that succeeds gives the digest of its source and the transcript of the last
successful run of its example, and that run was made for a source of the same digest. At every
time, kept files that are both there are those of one run, the last successful one. -/
theorem transcript_of_last_run (E : Set Entry) (t : Tree) (acts : List Act) (ha : Apart E t)
    (hn : ∀ e ∈ E, ∀ k, t.content? (e.kept k) = none) (hw : ∀ a ∈ acts, a.Within E) :
    (∀ earlier e source runner later x, acts = earlier ++ .call e source runner :: later →
      (callOn (Past.history { files := t } earlier).files e source runner).1 = .ok x →
        x.digest = sourceDigest e.id source ∧
          ∃ run, (Past.history { files := t } (earlier ++ [.call e source runner])).last? e =
              some run ∧
            x.text = prompt e.id ++ Utf8.decodeLossy run.output ∧
            sourceDigest e.id run.source = x.digest) ∧
      ∀ earlier later, acts = earlier ++ later → ∀ e ∈ E,
        (Past.history { files := t } earlier).Settled e := by
  -- the invariant holds before and after each act
  have hsound : ∀ earlier later, acts = earlier ++ later →
      (Past.history { files := t } earlier).Sound E := by
    rintro earlier later rfl
    exact Past.sound_history (Past.sound_start ha hn)
      fun a h => hw a (List.mem_append_left _ h)
  refine ⟨fun earlier e source runner later x hacts hx => ?_,
    fun earlier later hacts => (hsound earlier later hacts).settled⟩
  have he : (Act.call e source runner).Within E := by
    refine hw _ ?_
    rw [hacts]
    exact List.mem_append_right _ List.mem_cons_self
  obtain ⟨hd, run, hl, htext, hsame⟩ := (hsound earlier _ hacts).served he.1 hx
  refine ⟨hd, run, ?_, htext, hsame⟩
  unfold Past.history
  rw [List.foldl_append]
  exact hl

/-- An example is run, and called for again when it does not run any more. -/
theorem transcript_of_last_run_again :
    let t : Tree := { entries := [([.text ['a']], .directory)] }
    let a : Entry := ⟨"a", "A", ⟨['a']⟩, ⟨"a/a.js".toList⟩, none, none⟩
    let speaks : Runner := ⟨fun t _ => ⟨.ok [104, 105, 255], t, []⟩⟩
    let fails : Runner := ⟨fun t p => ⟨.error (.failed "sh" p "exit status: 1" []), t, []⟩⟩
    ∃ x run, (callOn (Past.history { files := t } [.call a [1] speaks]).files a [1] fails).1 =
        .ok x ∧ x.status = .hit ∧
      (Past.history { files := t } [.call a [1] speaks, .call a [1] fails]).last? a = some run ∧
      run.output = [104, 105, 255] ∧ x.text = prompt "a" ++ Utf8.decodeLossy run.output := by
  intro t a speaks fails
  have hspares : ∀ r : Runner, (∀ t p, (r.run t p).files = t) → r.Spares {a} := by
    intro r hr t p hp
    rw [hr]
    exact ⟨hp, fun _ _ _ => rfl⟩
  have hapart : Apart {a} t := by
    refine ⟨?_, ?_⟩
    · rintro e rfl k
      cases k <;> decide +kernel
    · rintro e rfl e' rfl k k' hne
      cases k <;> cases k' <;> first | exact absurd rfl hne | decide +kernel
  have hnone : ∀ e ∈ ({a} : Set Entry), ∀ k, t.content? (e.kept k) = none := by
    rintro e rfl k
    cases k <;> decide +kernel
  have hwithin : ∀ b ∈ [Act.call a [1] speaks, .call a [1] fails], b.Within {a} := by
    intro b hb
    simp only [List.mem_cons, List.not_mem_nil, or_false] at hb
    rcases hb with rfl | rfl
    · exact ⟨rfl, hspares _ fun _ _ => rfl⟩
    · exact ⟨rfl, hspares _ fun _ _ => rfl⟩
  have hcall : (callOn (Past.history { files := t } [.call a [1] speaks]).files a [1]
      fails).1.toOption = some ⟨prompt "a" ++ ['h', 'i', '\uFFFD'], sourceDigest "a" [1], .hit⟩ := by
    decide +kernel
  obtain ⟨-, run, hl, htext, -⟩ := (transcript_of_last_run {a} t _ hapart hnone hwithin).1
    [.call a [1] speaks] a [1] fails [] _ rfl (toOption_eq_some.1 hcall)
  refine ⟨_, run, toOption_eq_some.1 hcall, rfl, hl, ?_, htext⟩
  have hrun : (Past.history { files := t } [.call a [1] speaks, .call a [1] fails]).last? a =
      some ⟨a, [1], [104, 105, 255]⟩ := by
    decide +kernel
  rw [Option.some.inj (hl.symm.trans hrun)]

end LiterateSite.Site
