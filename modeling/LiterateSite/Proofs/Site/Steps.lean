import LiterateSite.Site.Session

/-!
# Steps of a build, one by one

A step of a build takes a session to a result and a session. These lemmas say what each step does,
so that no proof about a build has to look at how steps are put together.

* `Session.reporting`, `Session.ran`: a session after an event, and after a run.
* `Session.Untouched`: nothing has happened but reports.
* `bind_ok`, `bind_error`: a step after another one.
* `report_run`, `files_run`, `read_ok`, `change_ok`, `write_ok`, `createDirAll_ok`, `run_ok` and the
  like: the steps that a build is made of.
* `of_orHighlight`, `of_read`, `of_write` and the like: what such a step has done if it has
  succeeded.
-/

namespace LiterateSite.Site

open Files

namespace Session

/-- The session with one more event. -/
def reporting (s : Session) (v : Event) : Session := { s with events := s.events ++ [v] }

/-- The session after a run of a source. -/
def ran (s : Session) (runner : Runner) (source : Path) : Session :=
  { s with
    files := (runner.run s.files source).files
    events := s.events ++ (runner.run s.files source).events
    runs := s.runs ++ [source] }

/-- No file has been changed, nothing has been run, and no template has been loaded. -/
structure Untouched (s s' : Session) : Prop where
  files : s'.files = s.files
  runs : s'.runs = s.runs
  loaded : s'.loaded = s.loaded

variable {s s₁ s₂ : Session}

theorem Untouched.refl (s : Session) : s.Untouched s := ⟨rfl, rfl, rfl⟩

theorem Untouched.trans (h : s.Untouched s₁) (h' : s₁.Untouched s₂) : s.Untouched s₂ :=
  ⟨h'.files.trans h.files, h'.runs.trans h.runs, h'.loaded.trans h.loaded⟩

theorem untouched_reporting (s : Session) (v : Event) : s.Untouched (s.reporting v) :=
  ⟨rfl, rfl, rfl⟩

end Session

namespace Building

section bind

-- for the steps of a build, and for those of a command around it
variable {ε α β : Type} {m : ExceptT ε (StateM Session) α} {f : α → ExceptT ε (StateM Session) β}
  {s s' : Session} {a : α} {e : ε}

theorem bind_ok (h : m s = (.ok a, s')) : (m >>= f) s = f a s' := by
  show (match m s with | (r, s₁) => ExceptT.bindCont f r s₁) = _
  rw [h]
  rfl

theorem bind_error (h : m s = (.error e, s')) : (m >>= f) s = (.error e, s') := by
  show (match m s with | (r, s₁) => ExceptT.bindCont f r s₁) = _
  rw [h]
  rfl

/-- **A success of two steps** is a success of the first, and then of the second. -/
theorem bind_eq_ok {b : β} (h : (m >>= f) s = (.ok b, s')) :
    ∃ a s₁, m s = (.ok a, s₁) ∧ f a s₁ = (.ok b, s') := by
  -- a failure of the first step would be one of both
  cases hm : m s with
  | mk r s₁ =>
    cases r with
    | ok a => exact ⟨a, s₁, rfl, (bind_ok hm).symm.trans h⟩
    | error e =>
      have he := (bind_error (f := f) hm).symm.trans h
      cases he

/-- **A failure of two steps** is one of the first, or one of the second after it. -/
theorem bind_eq_error (h : (m >>= f) s = (.error e, s')) :
    m s = (.error e, s') ∨ ∃ a s₁, m s = (.ok a, s₁) ∧ f a s₁ = (.error e, s') := by
  cases hm : m s with
  | mk r s₁ =>
    cases r with
    | ok a => exact .inr ⟨a, s₁, rfl, (bind_ok hm).symm.trans h⟩
    | error err =>
      have he := (bind_error (f := f) hm).symm.trans h
      cases he
      exact .inl rfl

end bind

variable {α β : Type} {m : Building α} {f : α → Building β} {s s' : Session} {a : α}
  {e : BuildError}

theorem ok_of_isSome (h : (m s).1.toOption.isSome = true) : ∃ a s', m s = (.ok a, s') := by
  cases hm : m s with
  | mk r s' =>
    cases r with
    | ok a => exact ⟨a, s', rfl⟩
    | error e => rw [hm] at h; cases h

theorem pure_run (a : α) (s : Session) : (pure a : Building α) s = (.ok a, s) := rfl

theorem report_run (v : Event) (s : Session) : report v s = (.ok (), s.reporting v) := rfl

theorem files_run (s : Session) : files s = (.ok s.files, s) := rfl

theorem modify_run (f : Session → Session) (s : Session) :
    (modify f : Building PUnit) s = (.ok ⟨⟩, f s) := rfl

theorem orIo_ok (p : Path) (a : α) (s : Session) : (orIo p (.ok a)) s = (.ok a, s) := rfl

theorem orIo_error (p : Path) (e : IoError) (s : Session) :
    (orIo p (.error e) : Building α) s = (.error (.io p e), s) := rfl

theorem read_ok {p : Path} {content : List UInt8} (h : s.files.read p = .ok content) :
    Building.read p s = (.ok content, s) := by
  unfold Building.read
  rw [bind_ok (files_run s), h, orIo_ok]

theorem read_error {p : Path} {e : IoError} (h : s.files.read p = .error e) :
    Building.read p s = (.error (.io p e), s) := by
  unfold Building.read
  rw [bind_ok (files_run s), h, orIo_error]

theorem change_ok {p : Path} {f : Tree → Except IoError Tree} {t : Tree}
    (h : f s.files = .ok t) : change p f s = (.ok (), { s with files := t }) := by
  unfold change
  rw [bind_ok (files_run s), h, bind_ok (orIo_ok p t s)]
  rfl

theorem change_error {p : Path} {f : Tree → Except IoError Tree} {e : IoError}
    (h : f s.files = .error e) : change p f s = (.error (.io p e), s) := by
  unfold change
  rw [bind_ok (files_run s), h]
  exact bind_error (orIo_error p e s)

theorem write_ok {p : Path} {content : List UInt8} {t : Tree}
    (h : s.files.write p content = .ok t) :
    Building.write p content s = (.ok (), { s with files := t }) := change_ok h

theorem write_error {p : Path} {content : List UInt8} {e : IoError}
    (h : s.files.write p content = .error e) :
    Building.write p content s = (.error (.io p e), s) := change_error h

theorem createDirAll_ok {p : Path} {t : Tree} (h : s.files.createDirAll p = (t, .ok ())) :
    Building.createDirAll p s = (.ok (), { s with files := t }) := by
  unfold Building.createDirAll
  rw [bind_ok (files_run s), h]
  rfl

theorem createDirAll_error {p : Path} {t : Tree} {e : IoError}
    (h : s.files.createDirAll p = (t, .error e)) :
    Building.createDirAll p s = (.error (.io p e), { s with files := t }) := by
  unfold Building.createDirAll
  rw [bind_ok (files_run s), h]
  rfl

/-! ## Steps that have succeeded -/

theorem of_orHighlight {r : Except Highlight.HighlightError α} (h : orHighlight r s = (.ok a, s')) :
    r = .ok a ∧ s = s' := by
  cases r with
  | ok b => cases h; exact ⟨rfl, rfl⟩
  | error e => cases h

theorem of_read {p : Path} {content : List UInt8} (h : Building.read p s = (.ok content, s')) :
    s.files.read p = .ok content ∧ s = s' := by
  cases hr : s.files.read p with
  | ok c => rw [read_ok hr] at h; cases h; exact ⟨rfl, rfl⟩
  | error e => rw [read_error hr] at h; cases h

theorem of_write {p : Path} {content : List UInt8} {u : Unit}
    (h : Building.write p content s = (.ok u, s')) :
    s.files.write p content = .ok s'.files ∧ s'.runs = s.runs ∧ s'.loaded = s.loaded := by
  cases hw : s.files.write p content with
  | ok t => rw [write_ok hw] at h; cases h; exact ⟨rfl, rfl, rfl⟩
  | error e => rw [write_error hw] at h; cases h

theorem of_createDirAll {p : Path} {u : Unit} (h : Building.createDirAll p s = (.ok u, s')) :
    s' = { s with files := (s.files.createDirAll p).1 } := by
  cases hc : s.files.createDirAll p with
  | mk t r =>
    cases r with
    | ok u => rw [createDirAll_ok hc] at h; cases h; rfl
    | error e => rw [createDirAll_error hc] at h; cases h

/-! ## Runs -/

theorem run_ok {runner : Runner} {source : Path} {output : List UInt8}
    (h : (runner.run s.files source).result = .ok output) :
    Building.run runner source s = (.ok output, s.ran runner source) := by
  unfold Building.run
  rw [bind_ok (files_run s), bind_ok (modify_run _ s), h]
  rfl

theorem run_error {runner : Runner} {source : Path} {e : RunError}
    (h : (runner.run s.files source).result = .error e) :
    Building.run runner source s = (.error (.execution e), s.ran runner source) := by
  unfold Building.run
  rw [bind_ok (files_run s), bind_ok (modify_run _ s), h]
  rfl

end Building

end LiterateSite.Site
