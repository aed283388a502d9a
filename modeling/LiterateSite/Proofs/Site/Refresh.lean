import LiterateSite.Proofs.Files.Effect
import LiterateSite.Proofs.Site.Steps
import LiterateSite.Proofs.Text.Digest
import LiterateSite.Site.Transcript

/-!
# What a call for a transcript does

* `Kept`, `Entry.kept`: the two files that are kept beside a source.
* `lookUp_hit`, `lookUp_of_both`, `lookUp_of_places`, `lookUp_error`: what the kept files say, if
  they say anything.
* `Refreshed`, `refresh_cases`: **the five ways in which a run and the keeping of its transcript
  end.**
* `Ensured`, `ensureFresh_cases`: **the four ways in which a call ends.**
* `without`, `sets_without`: a tree without a file that may be there.
-/

namespace LiterateSite.Site

open Files Files.Tree Text

/-- The files that are kept beside a source. -/
inductive Kept where
  | digest
  | transcript
  deriving DecidableEq, Repr

/-- Where a file beside the source of an example is kept. -/
def Entry.kept (e : Entry) : Kept → Path
  | .digest => e.hashPath
  | .transcript => e.transcriptPath

/-! ## Looking at the kept files -/

variable {t t' : Tree} {p : Path} {e : Entry} {runner : Runner} {s s' : Session}

theorem readOptional_some {text : List Char} (h : readOptional t p = .ok (some text)) :
    ∃ bytes, t.content? p = some bytes ∧ text = Utf8.decodeLossy bytes := by
  unfold readOptional at h
  cases hr : t.read p with
  | ok bytes =>
    rw [hr] at h
    simp only [Except.ok.injEq, Option.some.injEq] at h
    exact ⟨bytes, read_eq_ok.1 hr, h.symm⟩
  | error err => rw [hr] at h; cases err <;> simp at h

theorem readOptional_of_content {bytes : List UInt8} (h : t.content? p = some bytes) :
    readOptional t p = .ok (some (Utf8.decodeLossy bytes)) := by
  unfold readOptional
  rw [read_eq_ok.2 h]

/-- A plain path that leads somewhere can be looked at. -/
theorem readOptional_of_place (hp : t.Plain p) {l : Location} (hl : t.place? p = some l) :
    readOptional t p = .ok ((t.content? p).map Utf8.decodeLossy) := by
  cases hc : t.content? p with
  | some bytes => exact readOptional_of_content hc
  | none =>
    -- there is no directory either, so there is nothing at all
    rw [content?_of_place hl] at hc
    have hr : t.read p = .error .notFound := by
      unfold Tree.read Tree.stat
      rw [show t.resolve p = .ok l from toOption_eq_some.1 hl]
      rcases shapeAt_eq_none (hp.shapeAt_place hl) with hg | ⟨old, hg⟩
      · simp only [hg]
      · rw [fileAt?_eq_some.2 hg] at hc
        exact absurd hc (Option.some_ne_none _)
    unfold readOptional
    rw [hr]
    rfl

/-- **A hit** needs both files, the digest being the one that is looked for. -/
theorem lookUp_hit {digest : String} {text : List Char}
    (h : lookUp t e digest = .ok (.hit, text)) :
    ∃ known bytes, t.content? e.hashPath = some known ∧
      trim (Utf8.decodeLossy known) = digest.toList ∧
      t.content? e.transcriptPath = some bytes ∧ text = Utf8.decodeLossy bytes := by
  unfold lookUp at h
  cases hh : readOptional t e.hashPath with
  | error err => rw [hh] at h; simp at h
  | ok found =>
    rw [hh] at h
    cases found with
    | none => simp at h
    | some known =>
      obtain ⟨bytes, hb, rfl⟩ := readOptional_some hh
      simp only at h
      by_cases hd : (trim (Utf8.decodeLossy bytes) == digest.toList) = true
      · rw [if_pos hd] at h
        cases hx : readOptional t e.transcriptPath with
        | error err => rw [hx] at h; simp at h
        | ok found =>
          rw [hx] at h
          cases found with
          | none => simp at h
          | some text' =>
            obtain ⟨bytes', hb', rfl⟩ := readOptional_some hx
            simp only [Except.ok.injEq, Prod.mk.injEq, true_and] at h
            exact ⟨bytes, bytes', hb, beq_iff_eq.1 hd, hb', h.symm⟩
      · rw [if_neg hd] at h
        simp at h

/-- Both files with the digest that is looked for are a hit. -/
theorem lookUp_of_both {digest : String} {known bytes : List UInt8}
    (hh : t.content? e.hashPath = some known)
    (hd : trim (Utf8.decodeLossy known) = digest.toList)
    (hx : t.content? e.transcriptPath = some bytes) :
    lookUp t e digest = .ok (.hit, Utf8.decodeLossy bytes) := by
  unfold lookUp
  rw [readOptional_of_content hh]
  simp only [hd, beq_self_eq_true, if_true]
  rw [readOptional_of_content hx]

/-- A kept file that cannot be looked at is no file, or is not reached. -/
theorem readOptional_error {err : BuildError} (h : readOptional t p = .error err) :
    ∃ cause, cause ≠ .notFound ∧ t.read p = .error cause ∧ err = .io p cause := by
  unfold readOptional at h
  cases hr : t.read p with
  | ok bytes => rw [hr] at h; cases h
  | error cause =>
    rw [hr] at h
    cases cause with
    | notFound => cases h
    | _ => exact ⟨_, by simp, rfl, (Except.error.inj h).symm⟩

theorem readOptional_of_error {cause : IoError} (h : t.read p = .error cause)
    (hne : cause ≠ .notFound) : readOptional t p = .error (.io p cause) := by
  unfold readOptional
  rw [h]
  cases cause with
  | notFound => exact absurd rfl hne
  | _ => rfl

theorem lookUp_error {digest : String} {err : BuildError} (h : lookUp t e digest = .error err) :
    ∃ k cause, cause ≠ .notFound ∧ t.read (e.kept k) = .error cause ∧
      err = .io (e.kept k) cause := by
  unfold lookUp at h
  cases hh : readOptional t e.hashPath with
  | error err' =>
    rw [hh] at h
    obtain rfl : err' = err := Except.error.inj h
    exact ⟨.digest, readOptional_error hh⟩
  | ok found =>
    rw [hh] at h
    cases found with
    | none => cases h
    | some known =>
      simp only at h
      split at h
      · cases hx : readOptional t e.transcriptPath with
        | error err' =>
          rw [hx] at h
          obtain rfl : err' = err := Except.error.inj h
          exact ⟨.transcript, readOptional_error hx⟩
        | ok found =>
          rw [hx] at h
          cases found <;> cases h
      · cases h

/-- Files that have been looked at say something about the digest. -/
theorem read_of_lookUp {digest : String} {found : Status × List Char}
    (h : lookUp t e digest = .ok found) {cause : IoError}
    (hr : t.read e.hashPath = .error cause) : cause = .notFound := by
  by_contra hne
  unfold lookUp at h
  rw [readOptional_of_error hr hne] at h
  cases h

/-- Plain paths that lead somewhere can be looked at. -/
theorem lookUp_of_places (hp : ∀ k, t.Plain (e.kept k))
    (hl : ∀ k, ∃ l, t.place? (e.kept k) = some l) (digest : String) :
    ∃ found, lookUp t e digest = .ok found := by
  obtain ⟨l, hh⟩ := hl .digest
  obtain ⟨l', hx⟩ := hl .transcript
  obtain ⟨known?, hread⟩ : ∃ found, readOptional t e.hashPath = .ok found :=
    ⟨_, readOptional_of_place (hp .digest) hh⟩
  obtain ⟨text?, hread'⟩ : ∃ found, readOptional t e.transcriptPath = .ok found :=
    ⟨_, readOptional_of_place (hp .transcript) hx⟩
  unfold lookUp
  rw [hread, hread']
  cases known? with
  | none => exact ⟨_, rfl⟩
  | some known =>
    simp only
    split
    · cases text? with
      | none => exact ⟨_, rfl⟩
      | some text => exact ⟨_, rfl⟩
    · exact ⟨_, rfl⟩

/-! ## Running an example -/

/-- The end of a run whose transcript is to be kept: the digest cannot be removed; the run fails;
the transcript cannot be written; the digest cannot be written; all is done. -/
inductive Refreshed (runner : Runner) (e : Entry) (digest : String) (s : Session) :
    Except BuildError (List Char) → Session → Prop
  | stuck {err : IoError} (hr : removeIfThere s.files e.hashPath = .error err) :
    Refreshed runner e digest s (.error (.io e.hashPath err)) s
  | failed {t : Tree} {err : RunError} (hr : removeIfThere s.files e.hashPath = .ok t)
    (ho : (runner.run t e.source).result = .error err) :
    Refreshed runner e digest s (.error (.execution err))
      ({ s with files := t }.ran runner e.source)
  | unwritten {t : Tree} {output : List UInt8} {err : IoError}
    (hr : removeIfThere s.files e.hashPath = .ok t)
    (ho : (runner.run t e.source).result = .ok output)
    (hx : (runner.run t e.source).files.write e.transcriptPath
      (Utf8.encode (transcriptText e.id output)) = .error err) :
    Refreshed runner e digest s (.error (.io e.transcriptPath err))
      ({ s with files := t }.ran runner e.source)
  | unsealed {t t' : Tree} {output : List UInt8} {err : IoError}
    (hr : removeIfThere s.files e.hashPath = .ok t)
    (ho : (runner.run t e.source).result = .ok output)
    (hx : (runner.run t e.source).files.write e.transcriptPath
      (Utf8.encode (transcriptText e.id output)) = .ok t')
    (hh : t'.write e.hashPath (Utf8.ofString digest) = .error err) :
    Refreshed runner e digest s (.error (.io e.hashPath err))
      { { s with files := t }.ran runner e.source with files := t' }
  | done {t t' t'' : Tree} {output : List UInt8}
    (hr : removeIfThere s.files e.hashPath = .ok t)
    (ho : (runner.run t e.source).result = .ok output)
    (hx : (runner.run t e.source).files.write e.transcriptPath
      (Utf8.encode (transcriptText e.id output)) = .ok t')
    (hh : t'.write e.hashPath (Utf8.ofString digest) = .ok t'') :
    Refreshed runner e digest s (.ok (transcriptText e.id output))
      { { s with files := t }.ran runner e.source with files := t'' }

/-- **The ways in which a run ends**, with its transcript kept or not. -/
theorem refresh_cases (runner : Runner) (e : Entry) (digest : String) (s : Session) :
    ∃ r s', refresh runner e digest s = (r, s') ∧ Refreshed runner e digest s r s' := by
  unfold refresh
  cases hr : removeIfThere s.files e.hashPath with
  | error err =>
    have h := Building.change_error (p := e.hashPath) (f := (removeIfThere · e.hashPath)) hr
    refine ⟨_, _, ?_, .stuck hr⟩
    rw [Building.bind_error h]
  | ok t =>
    have h := Building.change_ok (p := e.hashPath) (f := (removeIfThere · e.hashPath)) hr
    rw [Building.bind_ok h]
    -- the sessions after each step get names, so that the goals stay small
    generalize hs₁ : ({ s with files := t } : Session) = s₁
    have ht : s₁.files = t := by rw [← hs₁]
    cases ho : (runner.run t e.source).result with
    | error err =>
      have h := Building.run_error (s := s₁) (ht ▸ ho)
      refine ⟨_, _, ?_, .failed hr ho⟩
      rw [Building.bind_error h, hs₁]
    | ok output =>
      have h := Building.run_ok (s := s₁) (ht ▸ ho)
      rw [Building.bind_ok h]
      generalize hs₂ : s₁.ran runner e.source = s₂
      have hf : s₂.files = (runner.run t e.source).files := by rw [← hs₂, ← ht]; rfl
      cases hx : (runner.run t e.source).files.write e.transcriptPath
          (Utf8.encode (transcriptText e.id output)) with
      | error err =>
        have h := Building.write_error (s := s₂) (hf ▸ hx)
        refine ⟨_, _, ?_, .unwritten hr ho hx⟩
        rw [Building.bind_error h, hs₁, hs₂]
      | ok t' =>
        have h := Building.write_ok (s := s₂) (hf ▸ hx)
        rw [Building.bind_ok h]
        generalize hs₃ : ({ s₂ with files := t' } : Session) = s₃
        have ht' : s₃.files = t' := by rw [← hs₃]
        cases hh : t'.write e.hashPath (Utf8.ofString digest) with
        | error err =>
          have h := Building.write_error (s := s₃) (ht' ▸ hh)
          refine ⟨_, _, ?_, .unsealed hr ho hx hh⟩
          rw [Building.bind_error h, hs₁, hs₂, hs₃]
        | ok t'' =>
          have h := Building.write_ok (s := s₃) (ht' ▸ hh)
          refine ⟨_, _, ?_, .done hr ho hx hh⟩
          rw [Building.bind_ok h, Building.pure_run, hs₁, hs₂, ← hs₃]

/-! ## Calls -/

/-- The end of a call: the kept files cannot be looked at; they are a hit; or else a run has failed
or has given the transcript. -/
inductive Ensured (runner : Runner) (e : Entry) (source : List UInt8) (s : Session) :
    Except BuildError Transcript → Session → Prop
  | unread {err : BuildError} (hl : lookUp s.files e (sourceDigest e.id source) = .error err) :
    Ensured runner e source s (.error err) s
  | hit {text : List Char} (hl : lookUp s.files e (sourceDigest e.id source) = .ok (.hit, text)) :
    Ensured runner e source s (.ok ⟨text, sourceDigest e.id source, .hit⟩)
      (s.reporting (.cacheHit e.id))
  | missed {status : Status} {text : List Char} {err : BuildError} {s' : Session}
    (hs : status ≠ .hit) (hl : lookUp s.files e (sourceDigest e.id source) = .ok (status, text))
    (hr : Refreshed runner e (sourceDigest e.id source) (s.reporting (status.event e.id))
      (.error err) s') :
    Ensured runner e source s (.error err) s'
  | renewed {status : Status} {old text : List Char} {s' : Session}
    (hs : status ≠ .hit) (hl : lookUp s.files e (sourceDigest e.id source) = .ok (status, old))
    (hr : Refreshed runner e (sourceDigest e.id source) (s.reporting (status.event e.id))
      (.ok text) s') :
    Ensured runner e source s (.ok ⟨text, sourceDigest e.id source, status⟩) s'

theorem executed_iff (status : Status) : status.executed = true ↔ status ≠ .hit := by
  unfold Status.executed
  rw [bne_iff_ne]

/-- **The ways in which a call ends.** -/
theorem ensureFresh_cases (runner : Runner) (e : Entry) (source : List UInt8) (s : Session) :
    ∃ r s', ensureFresh runner e source s = (r, s') ∧ Ensured runner e source s r s' := by
  unfold ensureFresh
  rw [Building.bind_ok (Building.files_run s)]
  cases hl : lookUp s.files e (sourceDigest e.id source) with
  | error err => exact ⟨_, _, rfl, .unread hl⟩
  | ok found =>
    obtain ⟨status, old⟩ := found
    simp only
    rw [Building.bind_ok (Building.report_run _ s)]
    by_cases hs : status = .hit
    · subst hs
      exact ⟨_, _, rfl, .hit hl⟩
    · rw [if_pos ((executed_iff status).2 hs)]
      obtain ⟨r, s', hrun, hr⟩ := refresh_cases runner e (sourceDigest e.id source)
        (s.reporting (status.event e.id))
      cases r with
      | error err => exact ⟨_, _, Building.bind_error hrun, .missed hs hl hr⟩
      | ok text => exact ⟨_, _, by rw [Building.bind_ok hrun]; rfl, .renewed hs hl hr⟩

/-- A call that ends in a way has ended in one of the ways that there are. -/
theorem ensured {source : List UInt8} {r : Except BuildError Transcript}
    (h : ensureFresh runner e source s = (r, s')) : Ensured runner e source s r s' := by
  obtain ⟨r', s'', h', hc⟩ := ensureFresh_cases runner e source s
  rw [h] at h'
  cases h'
  exact hc

/-! ### Calls by what has been found -/

section found

variable {source : List UInt8} {status : Status}

/-- A call that runs its example, after the kept files have been looked at. -/
theorem ensureFresh_of_miss (hs : status ≠ .hit) {old : List Char}
    (hl : lookUp s.files e (sourceDigest e.id source) = .ok (status, old)) :
    ensureFresh runner e source s =
      (((refresh runner e (sourceDigest e.id source) (s.reporting (status.event e.id))).1.map
        fun text => ⟨text, sourceDigest e.id source, status⟩),
        (refresh runner e (sourceDigest e.id source) (s.reporting (status.event e.id))).2) := by
  unfold ensureFresh
  rw [Building.bind_ok (Building.files_run s), hl]
  simp only
  rw [Building.bind_ok (Building.report_run _ s), if_pos ((executed_iff status).2 hs)]
  cases hr : refresh runner e (sourceDigest e.id source) (s.reporting (status.event e.id)) with
  | mk r s' =>
    cases r with
    | error err => exact Building.bind_error hr
    | ok text => exact Building.bind_ok hr

theorem ensureFresh_of_hit (runner : Runner) {text : List Char}
    (hl : lookUp s.files e (sourceDigest e.id source) = .ok (.hit, text)) :
    ensureFresh runner e source s =
      (.ok ⟨text, sourceDigest e.id source, .hit⟩, s.reporting (.cacheHit e.id)) := by
  unfold ensureFresh
  rw [Building.bind_ok (Building.files_run s), hl]
  rfl

theorem ensureFresh_of_error {err : BuildError}
    (hl : lookUp s.files e (sourceDigest e.id source) = .error err) :
    ensureFresh runner e source s = (.error err, s) := by
  unfold ensureFresh
  rw [Building.bind_ok (Building.files_run s), hl]
  rfl

end found

/-! ### Runs -/

/-- A run whose transcript is to be kept runs the example once, unless the digest is stuck. -/
theorem Refreshed.runs_cases {digest : String} {r : Except BuildError (List Char)}
    (h : Refreshed runner e digest s r s') :
    s'.runs = s.runs ∨ s'.runs = s.runs ++ [e.source] := by
  cases h with
  | stuck => exact .inl rfl
  | failed => exact .inr rfl
  | unwritten => exact .inr rfl
  | unsealed => exact .inr rfl
  | done => exact .inr rfl

/-- **A call runs its example at most once**, and nothing else. -/
theorem Ensured.runs_cases {source : List UInt8} {r : Except BuildError Transcript}
    (h : Ensured runner e source s r s') :
    s'.runs = s.runs ∨ s'.runs = s.runs ++ [e.source] := by
  cases h with
  | unread => exact .inl rfl
  | hit => exact .inl rfl
  | missed hs hl hr => exact hr.runs_cases
  | renewed hs hl hr => exact hr.runs_cases

/-- **A call that succeeds** runs its example as its status says. -/
theorem Ensured.runs {source : List UInt8} {x : Transcript}
    (h : Ensured runner e source s (.ok x) s') :
    s'.runs = s.runs ++ if x.status.executed then [e.source] else [] := by
  cases h with
  | hit =>
    show s.runs = s.runs ++ []
    rw [List.append_nil]
  | renewed hs hl hr =>
    rw [if_pos ((executed_iff _).2 hs)]
    cases hr with
    | done => rfl

theorem Refreshed.loaded {digest : String} {r : Except BuildError (List Char)}
    (h : Refreshed runner e digest s r s') : s'.loaded = s.loaded := by
  cases h <;> rfl

/-- **A call loads no template.** -/
theorem Ensured.loaded {source : List UInt8} {r : Except BuildError Transcript}
    (h : Ensured runner e source s r s') : s'.loaded = s.loaded := by
  cases h with
  | unread => rfl
  | hit => rfl
  | missed hs hl hr => exact hr.loaded
  | renewed hs hl hr => exact hr.loaded

/-- **A hit** is one of the kept files. -/
theorem Ensured.hit_text {source : List UInt8} {x : Transcript}
    (h : Ensured runner e source s (.ok x) s') (hx : x.status = .hit) :
    lookUp s.files e (sourceDigest e.id source) = .ok (.hit, x.text) := by
  cases h with
  | hit hl => exact hl
  | renewed hs hl hr => exact absurd hx hs

/-- A hit changes no file. -/
theorem Ensured.hit_files {source : List UInt8} {x : Transcript}
    (h : Ensured runner e source s (.ok x) s') (hx : x.status = .hit) : s'.files = s.files := by
  cases h with
  | hit hl => rfl
  | renewed hs hl hr => exact absurd hx hs

/-- Removing a file that may be there leaves its path without content. -/
theorem sets_removeIfThere (hp : t.Plain p) (h : removeIfThere t p = .ok t') :
    t.Sets p none t' := by
  unfold removeIfThere at h
  split at h
  · next hu =>
    rw [← Except.ok.inj h]
    exact sets_self (content?_of_unlink_notFound hp hu)
  · exact sets_unlink hp h

/-- A file at the end of a plain path that leads somewhere is removed, if it is there. -/
theorem removeIfThere_ok (hp : t.Plain p) {l : Location} (hl : t.place? p = some l) :
    ∃ t', removeIfThere t p = .ok t' := by
  unfold removeIfThere
  rcases unlink_cases hp hl with hn | ⟨t', ht⟩
  · exact ⟨t, by rw [hn]⟩
  · exact ⟨t', by rw [ht]⟩

/-- A file cannot be removed only if it cannot be looked at, either. -/
theorem removeIfThere_error (hp : t.Plain p) {cause : IoError}
    (h : removeIfThere t p = .error cause) : cause ≠ .notFound ∧ t.read p = .error cause := by
  have hu : t.unlink p = .error cause ∧ cause ≠ .notFound := by
    unfold removeIfThere at h
    split at h
    · cases h
    · next hne =>
      refine ⟨h, ?_⟩
      rintro rfl
      exact hne h
  refine ⟨hu.2, ?_⟩
  cases hr : t.resolve p with
  | error e =>
    have he : t.unlink p = .error e := by
      unfold unlink
      rw [← hp.resolve_eq, hr]
    unfold Tree.read stat
    rw [hr, Except.error.inj (hu.1.symm.trans he)]
  | ok l =>
    -- a file at the place would have been removed
    rcases unlink_cases hp (toOption_eq_some.2 hr) with hn | ⟨t', ht⟩
    · exact absurd (Except.error.inj (hu.1.symm.trans hn)) hu.2
    · cases hu.1.symm.trans ht

/-- The tree without the file at the end of a path, if there is one. -/
def without (t : Tree) (p : Path) : Tree := (removeIfThere t p).toOption.getD t

theorem without_eq (h : removeIfThere t p = .ok t') : without t p = t' := by
  unfold without
  rw [h]
  rfl

theorem sets_without (hp : t.Plain p) : t.Sets p none (without t p) := by
  unfold without
  cases hr : removeIfThere t p with
  | ok t' => exact sets_removeIfThere hp hr
  | error err =>
    -- the path leads nowhere then
    refine sets_self ?_
    rw [content?_eq]
    cases hl : t.place? p with
    | none => rfl
    | some l =>
      obtain ⟨t', ht⟩ := removeIfThere_ok hp hl
      rw [ht] at hr
      cases hr

end LiterateSite.Site
