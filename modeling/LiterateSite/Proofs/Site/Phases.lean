import LiterateSite.Proofs.Site.OnDisk
import LiterateSite.Proofs.Site.Touch

/-!
# The phases of a build

* `Builder.prepare`, `Builder.finish`, `build_eq`: **a build prepares, makes the pages, and
  finishes.**
* `Prepared`, `of_prepare`, `prepare_frame`: what preparing does.
* `touches_pages`, `touches_finish`: what the other phases change.
* `build_rewrites`: **a build creates its output directory, and changes at most its products.**
-/

namespace LiterateSite.Site

open Files Files.Tree Text Building

namespace Builder

/-- List the examples, create the output directory, write the style sheets, and take the
templates. -/
def prepare (b : Builder) : Building (Highlight.Theme × List Entry) := do
  let theme ← orHighlight (Highlight.Theme.find b.config.theme)
  let entries ← catalog b.config.toLayout
  Building.createDirAll b.config.output
  b.writeSheets theme
  b.takeTemplates
  return (theme, entries)

/-- Write the index, and tell what has been done. -/
def finish (b : Builder) (entries : List Entry) (built : List (Example × Status)) :
    Building BuildResult := do
  b.writeIndex (built.map (·.1))
  let executed := built.countP fun (_, status) => status.executed
  let pages := entries.length
  Building.report (.builtExamples pages executed (pages - executed))
  return { pages, executed, cached := pages - executed, output := b.config.output }

end Builder

variable {b : Builder} {theme : Highlight.Theme} {ids : List String} {entries : List Entry}
  {s s' : Session} {t t' : Tree} {w : Location}

/-- **The phases of a build.** -/
theorem build_eq (b : Builder) : b.build = b.prepare >>= fun x =>
    x.2.mapM (b.buildExample x.1) >>= fun built => b.finish x.2 built := by
  unfold Builder.build Builder.prepare Builder.finish
  simp only [bind_assoc, pure_bind]

/-! ## Preparing -/

/-- **What preparing does if it succeeds**: the examples are listed, the output directory is
created, the style sheets are written, and the templates are those of the builder. -/
structure Prepared (b : Builder) (s : Session) (theme : Highlight.Theme) (entries : List Entry)
    (s' : Session) : Prop where
  theme_found : Highlight.Theme.find b.config.theme = .ok theme
  listed : enumeratedIds b.layout s.files = .ok (entries.map Entry.id)
  entries_eq : entries = entriesOf b.layout (entries.map Entry.id)
  sheets : ∃ code t, b.highlighter.stylesheet theme = .ok code ∧
    (s.files.createDirAll b.config.output).1.write (b.outputPath "site.css")
      (Utf8.encode (Style.finish Style.layout b.config.minify).1) = .ok t ∧
    t.write (b.outputPath "code.css")
      (Utf8.encode (Style.finish code.toList b.config.minify).1) = .ok s'.files
  runs : s'.runs = s.runs
  loaded : s'.loaded = b.templates.loaded

theorem write_runs (p : Path) (content : List UInt8) (s : Session) :
    (Building.write p content s).2.runs = s.runs := by
  cases hw : s.files.write p content with
  | ok t => rw [write_ok hw]
  | error err => rw [write_error hw]

/-- Writing the style sheets runs nothing. -/
theorem writeSheets_runs (theme : Highlight.Theme) (s : Session) :
    (b.writeSheets theme s).2.runs = s.runs := by
  obtain ⟨s', hs', hrun⟩ := writeSheets_run b theme s
  rw [hrun, ← hs'.runs]
  cases b.highlighter.stylesheet theme with
  | error err => rfl
  | ok code =>
    simp only
    cases hw : Building.write (b.outputPath "site.css")
      (Utf8.encode (Style.finish Style.layout b.config.minify).1) s' with
    | mk r s₁ =>
      have h₁ := write_runs (b.outputPath "site.css")
        (Utf8.encode (Style.finish Style.layout b.config.minify).1) s'
      rw [hw] at h₁
      cases r with
      | error err => rw [bind_error hw]; exact h₁
      | ok _ => rw [bind_ok hw, write_runs]; exact h₁

/-- Writing the style sheets and taking the templates changes at most the sheets, and gives what it
is to give. -/
theorem sheets_frame {α : Type} (b : Builder) (theme : Highlight.Theme) (a : α)
    (hl : s.files.Linkless) :
    let written := (b.writeSheets theme >>= fun _ => b.takeTemplates >>= fun _ => pure a) s
    written.2.runs = s.runs ∧ Rewrites b.sheets s.files written.2.files ∧
      ∀ x, written.1 = .ok x → x = a := by
  intro written
  have htouch := touches_writeSheets (b := b) theme s hl
  have hruns := writeSheets_runs (b := b) theme s
  cases hw : b.writeSheets theme s with
  | mk r s₁ =>
    rw [hw] at htouch hruns
    cases r with
    | error err =>
      rw [show written = (.error err, s₁) from bind_error hw]
      exact ⟨hruns, htouch, fun x hx => nomatch hx⟩
    | ok _ =>
      rw [show written = (.ok a, { s₁ with loaded := b.templates.loaded }) from bind_ok hw]
      exact ⟨hruns, htouch, fun x hx => (Except.ok.inj hx).symm⟩

/-- **What preparing does in any case**: nothing, if no ids are found; else the output directory may
come to be, and after that at most the style sheets are changed. It runs nothing. -/
theorem prepare_frame (b : Builder) (hl : s.files.Linkless) :
    (b.prepare s).2.runs = s.runs ∧
      ((∃ err, (b.prepare s).1 = .error err) ∧ (b.prepare s).2.files = s.files ∨
      ∃ ids t, enumeratedIds b.layout s.files = .ok ids ∧
        Grows {l | l ∈ b.config.output.way s.files.workDir} s.files t ∧
        Rewrites b.sheets t (b.prepare s).2.files ∧
        ∀ x, (b.prepare s).1 = .ok x → x.2 = entriesOf b.layout ids) := by
  unfold Builder.prepare
  cases Highlight.Theme.find b.config.theme with
  | error err => exact ⟨rfl, .inl ⟨⟨_, rfl⟩, rfl⟩⟩
  | ok theme =>
    rw [bind_ok (show (orHighlight (.ok theme)) s = (.ok theme, s) from rfl)]
    obtain ⟨s₁, ⟨hf₁, hr₁, -⟩, hrun⟩ := catalog_run b.config.toLayout s
    cases hids : enumeratedIds b.config.toLayout s.files with
    | error err =>
      rw [hids] at hrun
      rw [bind_error hrun]
      exact ⟨hr₁, .inl ⟨⟨err, rfl⟩, hf₁⟩⟩
    | ok ids =>
      rw [hids] at hrun
      rw [bind_ok hrun]
      have hgrows := createDirAll_grows (p := b.config.output) fun k _ => hl k
      rw [← hf₁] at hgrows hl
      cases hc : s₁.files.createDirAll b.config.output with
      | mk t r =>
        rw [hc] at hgrows
        simp only at hgrows
        cases r with
        | error err =>
          rw [bind_error (createDirAll_error hc)]
          refine ⟨hr₁, .inr ⟨ids, t, rfl, hf₁ ▸ hgrows, Rewrites.refl _ _, fun x hx => ?_⟩⟩
          cases hx
        | ok _ =>
          rw [bind_ok (createDirAll_ok hc)]
          obtain ⟨hruns, hrewrites, hgives⟩ :=
            sheets_frame (s := { s₁ with files := t }) b theme
              (theme, entriesOf b.config.toLayout ids) (hl.grows hgrows)
          exact ⟨hruns.trans hr₁, .inr ⟨ids, t, rfl, hf₁ ▸ hgrows, hrewrites,
            fun x hx => congrArg Prod.snd (hgives x hx)⟩⟩

/-- **Preparing that succeeds.** -/
theorem of_prepare (h : b.prepare s = (.ok (theme, entries), s')) :
    Prepared b s theme entries s' := by
  unfold Builder.prepare at h
  obtain ⟨theme', s₁, h₁, h⟩ := bind_eq_ok h
  obtain ⟨htheme, rfl⟩ := of_orHighlight h₁
  obtain ⟨entries', s₂, h₂, h⟩ := bind_eq_ok h
  obtain ⟨_, s₃, h₃, h⟩ := bind_eq_ok h
  obtain rfl := of_createDirAll h₃
  rw [← bind_assoc] at h
  obtain ⟨_, s₄, h₄, h⟩ := bind_eq_ok h
  cases h
  have hids := catalog_eq_ok h₂
  obtain ⟨hcatalog, hfiles, hruns⟩ := catalog_of_enumerated hids
  rw [h₂] at hcatalog hfiles hruns
  obtain ⟨hloaded, hrun, code, t, hcode, hsite, hcss⟩ := of_takeTemplates h₄
  refine ⟨htheme, hids, Except.ok.inj hcatalog, ?_, hrun.trans hruns, hloaded⟩
  simp only [show s₂.files = s.files from hfiles] at hsite
  exact ⟨code, t, hcode, hsite, hcss⟩

/-! ## Finishing -/

/-- What a build tells if it succeeds. -/
def resultOf (b : Builder) (entries : List Entry) (built : List (Example × Status)) :
    BuildResult :=
  let executed := built.countP fun (_, status) => status.executed
  { pages := entries.length, executed, cached := entries.length - executed,
    output := b.config.output }

/-- **Finishing**: the index cannot be rendered; it cannot be written; or it is written. -/
theorem finish_run (b : Builder) (entries : List Entry) (built : List (Example × Status))
    (s : Session) : ∃ names, b.finish entries built s =
      match Template.renderIndex (b.sourceAt s) b.config.title.toList
        ((built.map (·.1)).map Example.indexEntry) with
      | .error err => (.error (.render err), s)
      | .ok html =>
        match s.files.write (b.outputPath "index.html") (Utf8.encode html) with
        | .error err => (.error (.io (b.outputPath "index.html") err), s.loading b names)
        | .ok t => (.ok (resultOf b entries built),
            ({ s.loading b names with files := t } : Session).reporting
              (.builtExamples (resultOf b entries built).pages (resultOf b entries built).executed
                (resultOf b entries built).cached)) := by
  obtain ⟨names, hrun⟩ := writeIndex_run b (built.map (·.1)) s
  refine ⟨names, ?_⟩
  unfold Builder.finish
  cases hr : Template.renderIndex (b.sourceAt s) b.config.title.toList
      ((built.map (·.1)).map Example.indexEntry) with
  | error err =>
    rw [hr] at hrun
    rw [bind_error hrun]
  | ok html =>
    rw [hr] at hrun
    simp only at hrun ⊢
    cases hw : s.files.write (b.outputPath "index.html") (Utf8.encode html) with
    | error err =>
      rw [hw] at hrun
      rw [bind_error hrun]
    | ok t =>
      rw [hw] at hrun
      rw [bind_ok hrun]
      rfl

/-- **Finishing that succeeds.** -/
theorem of_finish {built : List (Example × Status)} {r : BuildResult}
    (h : b.finish entries built s = (.ok r, s')) : r = resultOf b entries built ∧
      ∃ html, Template.renderIndex (b.sourceAt s) b.config.title.toList
          ((built.map (·.1)).map Example.indexEntry) = .ok html ∧
        s.files.write (b.outputPath "index.html") (Utf8.encode html) = .ok s'.files := by
  obtain ⟨names, hrun⟩ := finish_run b entries built s
  rw [hrun] at h
  split at h
  · cases h
  · next html hr =>
    split at h
    · cases h
    · next t hw =>
      cases h
      exact ⟨rfl, html, hr, hw⟩

theorem finish_runs (entries : List Entry) (built : List (Example × Status)) (s : Session) :
    (b.finish entries built s).2.runs = s.runs := by
  obtain ⟨names, hrun⟩ := finish_run b entries built s
  rw [hrun]
  split
  · rfl
  · split <;> rfl

/-! ## What a build changes -/

/-- What is kept for an entry, and its page, are what is made for its id. -/
theorem made_eq {e : Entry} (he : e ∈ entriesOf b.layout ids) :
    insert (b.outputPath (e.id ++ ".html")) (Set.range e.kept) = b.made e.id := by
  have hkept : e.kept = b.layout.keptOf e.id := funext (Layout.kept_eq he)
  rw [hkept]
  rfl

theorem touches_finish (b : Builder) (entries : List Entry) (built : List (Example × Status)) :
    Touches {b.outputPath "index.html"} (b.finish entries built) := by
  unfold Builder.finish
  refine (touches_writeIndex _).bind fun _ => ?_
  refine (still_report _).touches.bind fun _ => ?_
  exact (still_pure _).touches

section frame

variable (hf : ∀ t p, (b.runner.run t p).files = t)

include hf

/-- **Making the pages** changes products. -/
theorem touches_pages (hsub : ∀ e ∈ entries, e ∈ entriesOf b.layout ids) :
    Touches (b.products ids) (entries.mapM (b.buildExample theme)) := by
  refine touches_mapM entries fun e he => ?_
  have hmade := touches_buildExample hf theme e
  rw [made_eq (hsub e he)] at hmade
  exact hmade.mono fun p hp => .inr (.inr ⟨e.id, Layout.id_mem (hsub e he), hp⟩)

/-- **What a build changes.** The output directory and those around it may come to be; after that,
at most products are changed. If no ids are found, nothing is. -/
theorem build_rewrites (hl : s.files.Linkless) : (b.build s).2.files = s.files ∨
    ∃ ids t, enumeratedIds b.layout s.files = .ok ids ∧
      Grows {l | l ∈ b.config.output.way s.files.workDir} s.files t ∧
      Rewrites (b.products ids) t (b.build s).2.files := by
  obtain ⟨-, hprep⟩ := prepare_frame b hl
  rw [build_eq]
  cases hp : b.prepare s with
  | mk r s₁ =>
    rw [hp] at hprep
    rcases hprep with ⟨⟨err, he⟩, hf₁⟩ | ⟨ids, t, hids, hgrows, hsheets, hentries⟩
    · cases he
      rw [bind_error hp]
      exact .inl hf₁
    · -- what comes after preparing changes products, too
      have hproducts : Rewrites (b.products ids) t s₁.files :=
        hsheets.mono fun p hp => .inr (.inl hp)
      refine .inr ⟨ids, t, hids, hgrows, ?_⟩
      cases r with
      | error err => rw [bind_error hp]; exact hproducts
      | ok x =>
        rw [bind_ok hp]
        have hrest : Touches (b.products ids)
            (x.2.mapM (b.buildExample x.1) >>= fun built => b.finish x.2 built) := by
          refine (touches_pages hf fun e he => ?_).bind fun built => ?_
          · rw [hentries x rfl] at he
            exact he
          · refine (touches_finish b _ built).mono ?_
            rintro p rfl
            exact .inl rfl
        exact hproducts.trans (hrest s₁ (hproducts.linkless (hl.grows hgrows)))

end frame

end LiterateSite.Site
