import LiterateSite.CommandLine.Commands
import LiterateSite.Proofs.Highlight.Run
import LiterateSite.Proofs.Site.Phases

/-!
# What is refused is refused before anything happens

* `BuildError.Refuses`: errors that speak of the configuration.
* `Carries`: **steps that never fail with such an error**, `Carries.bind`, `carries_mapM`: steps one
  after the other.
* `carries_ensureFresh`, `carries_renderPage`, `carries_finish`: all that comes after the catalog is
  of that kind, with a highlighter by grammars.
* `build_error_cases`: an error comes from the theme or the catalog, and nothing has happened; or it
  comes later, and does not speak of the configuration.
* `refused_before_anything`: **what is wrong with the configuration is told before any file is
  changed or any example is run.**
-/

namespace LiterateSite.Site

open Files Building Highlight

/-- The error speaks of the configuration. -/
def BuildError.Refuses : BuildError → Prop
  | .config _ => True
  | .highlight (.unknownTheme _) => True
  | _ => False

/-- **Steps that never fail with an error that speaks of the configuration.** -/
def Carries {α : Type} (m : Building α) : Prop :=
  ∀ s err s', m s = (.error err, s') → ¬err.Refuses

variable {α β : Type} {b : Builder} {theme : Theme} {s s' : Session} {r : Registry}

/-! ## Single steps -/

theorem carries_pure (a : α) : Carries (pure a : Building α) := fun _ _ _ h => by cases h

theorem carries_report (v : Event) : Carries (report v) := fun _ _ _ h => by cases h

theorem carries_files : Carries files := fun _ _ _ h => by cases h

theorem carries_throw {err : BuildError} (he : ¬err.Refuses) :
    Carries (throw err : Building α) := fun _ _ _ h => by cases h; exact he

theorem Carries.bind {m : Building α} {f : α → Building β} (h : Carries m)
    (hf : ∀ a, Carries (f a)) : Carries (m >>= f) := by
  intro s err s' he
  rcases bind_eq_error he with he | ⟨a, s₁, -, he⟩
  · exact h s err s' he
  · exact hf a s₁ err s' he

/-- **A list of steps.** -/
theorem carries_mapM {γ : Type} {f : γ → Building α} (xs : List γ) (h : ∀ x, Carries (f x)) :
    Carries (xs.mapM f) := by
  induction xs with
  | nil =>
    rw [List.mapM_nil]
    exact carries_pure _
  | cons x rest ih =>
    rw [List.mapM_cons]
    exact (h x).bind fun a => ih.bind fun as => carries_pure _

theorem carries_orIo (p : Path) (r : Except IoError α) : Carries (orIo p r) := by
  cases r with
  | ok a => exact carries_pure a
  | error e => exact carries_throw id

theorem carries_read (p : Path) : Carries (Building.read p) :=
  carries_files.bind fun _ => carries_orIo p _

theorem carries_modify (f : Session → Session) : Carries (modify f : Building PUnit) :=
  fun _ _ _ h => by cases h

theorem carries_change (p : Path) (f : Tree → Except IoError Tree) : Carries (change p f) :=
  carries_files.bind fun _ => (carries_orIo p _).bind fun _ => carries_modify _

theorem carries_write (p : Path) (content : List UInt8) : Carries (Building.write p content) :=
  carries_change p _

theorem carries_createDirAll (p : Path) : Carries (Building.createDirAll p) :=
  carries_files.bind fun _ => (carries_modify _).bind fun _ => carries_orIo p _

/-- A rendering that fails does so with an error of a template. -/
theorem carries_render (b : Builder)
    (page : Template.Source → Except Template.TemplateError Template.Rendering) :
    Carries (b.render page) := by
  intro s err s' h
  rw [render_run] at h
  split at h <;> cases h
  exact id

theorem carries_run (runner : Runner) (source : Path) : Carries (Building.run runner source) := by
  refine carries_files.bind fun t => (carries_modify _).bind fun _ => ?_
  cases (runner.run t source).result with
  | ok output => exact carries_pure output
  | error e => exact carries_throw id

/-! ## Transcripts -/

theorem carries_refresh (runner : Runner) (e : Entry) (digest : String) :
    Carries (refresh runner e digest) :=
  (carries_change _ _).bind fun _ => (carries_run runner _).bind fun _ =>
    (carries_write _ _).bind fun _ => (carries_write _ _).bind fun _ => carries_pure _

theorem carries_ensureFresh (runner : Runner) (e : Entry) (source : List UInt8) :
    Carries (ensureFresh runner e source) := by
  unfold ensureFresh
  refine carries_files.bind fun t => ?_
  cases hl : lookUp t e (sourceDigest e.id source) with
  | error err =>
    obtain ⟨k, cause, -, -, rfl⟩ := lookUp_error hl
    exact carries_throw id
  | ok found =>
    refine (carries_report _).bind fun _ => ?_
    split
    · exact (carries_refresh runner e _).bind fun _ => carries_pure _
    · exact carries_pure _

/-! ## Pages -/

/-- **A highlighter by grammars** gets a theme and never asks for one by name. -/
theorem highlight_error {text : List Char} {language : String} {e : HighlightError}
    (h : r.highlighter.highlight text language theme = .error e) :
    ¬(BuildError.highlight e).Refuses := by
  change (r.tokenize language text).map _ = _ at h
  unfold Registry.tokenize at h
  cases hf : r.find? language with
  | none =>
    rw [hf] at h
    cases h
    exact id
  | some g =>
    rw [hf] at h
    simp only [Grammar.tokenize] at h
    cases hs : g.scan Grammar.rootState text with
    | ok steps => rw [hs] at h; cases h
    | error e' =>
      obtain ⟨missing, rfl, -⟩ := of_scan_error _ _ _ hs
      rw [hs] at h
      cases h
      exact id

theorem mapM_error {ε γ δ : Type} {f : γ → Except ε δ} {e : ε} {xs : List γ}
    (h : xs.mapM f = .error e) : ∃ x ∈ xs, f x = .error e := by
  induction xs with
  | nil => cases h
  | cons x rest ih =>
    rw [List.mapM_cons] at h
    cases hx : f x with
    | error e' =>
      rw [hx] at h
      cases h
      exact ⟨x, List.mem_cons_self, hx⟩
    | ok a =>
      cases hr : rest.mapM f with
      | ok as => simp [hx, hr, bind, Except.bind, pure, Except.pure] at h
      | error e' =>
        simp only [hx, hr, bind, Except.bind, Except.error.injEq] at h
        obtain ⟨y, hy, he⟩ := ih (h ▸ hr)
        exact ⟨y, List.mem_cons_of_mem _ hy, he⟩

section grammars

variable (hb : b.highlighter = r.highlighter)

include hb

/-- **Rendering a page** fails for want of a language or a state of its grammar, or with an error of
a template. -/
theorem carries_renderPage (x : Example) (transcript : List Char) :
    Carries (b.renderPage theme x transcript) := by
  intro s err s' h
  obtain ⟨names, hrun⟩ := renderPage_run b theme x transcript s
  rw [hrun] at h
  have hpage := congrArg Prod.fst h
  simp only [Builder.pageOf] at hpage
  split at hpage
  · rename_i e he
    cases hpage
    unfold Look.transcript Builder.look at he
    rw [hb] at he
    exact highlight_error he
  · split at hpage
    · rename_i e he
      cases hpage
      -- the rows of a page fail with a row of code
      unfold Look.rows at he
      cases hm : x.segments.mapM (b.look theme).segmentRow with
      | ok middle => rw [hm] at he; cases he
      | error e' =>
        rw [hm] at he
        cases he
        obtain ⟨segment, -, hseg⟩ := mapM_error hm
        unfold Look.segmentRow at hseg
        cases hcode : (b.look theme).code segment.code with
        | ok block => rw [hcode] at hseg; cases hseg
        | error e'' =>
          rw [hcode] at hseg
          cases hseg
          unfold Look.code Builder.look at hcode
          rw [hb] at hcode
          split at hcode
          · cases hcode
          · exact highlight_error hcode
    · split at hpage
      · cases hpage
        exact id
      · cases hpage

theorem carries_buildExample (theme : Theme) (e : Entry) : Carries (b.buildExample theme e) :=
  (carries_read _).bind fun _ => (carries_ensureFresh b.runner e _).bind fun _ =>
    (carries_renderPage hb _ _).bind fun _ => (carries_write _ _).bind fun _ =>
      (carries_report _).bind fun _ => carries_pure _

theorem carries_writeSheets (theme : Theme) : Carries (b.writeSheets theme) := by
  intro s err s' h
  obtain ⟨s₁, -, hrun⟩ := writeSheets_run b theme s
  rw [hrun, hb] at h
  exact ((carries_write _ _).bind fun _ => carries_write _ _) s₁ err s' h

omit hb in
theorem carries_finish (entries : List Entry) (built : List (Example × Status)) :
    Carries (b.finish entries built) :=
  ((carries_render b _).bind fun _ => carries_write _ _).bind fun _ =>
    (carries_report _).bind fun _ => carries_pure _

/-- **An error of a build** comes from the theme or from the catalog, and nothing has happened; or
it comes later, and does not speak of the configuration. -/
theorem build_error_cases {err : BuildError} (h : b.build s = (.error err, s')) :
    s.Untouched s' ∨ ¬err.Refuses := by
  unfold Builder.build at h
  rcases bind_eq_error h with h | ⟨theme, s₁, htheme, h⟩
  · cases hf : Theme.find b.config.theme with
    | error e =>
      rw [hf] at h
      cases h
      exact .inl (.refl s)
    | ok theme =>
      rw [hf] at h
      cases h
  · obtain ⟨-, rfl⟩ := of_orHighlight htheme
    rcases bind_eq_error h with h | ⟨entries, s₂, -, h⟩
    · obtain ⟨s₂, hsame, hrun⟩ := catalog_run b.config.toLayout s
      rw [hrun] at h
      split at h
      · cases h
      · cases h
        exact .inl hsame
    · -- all that is left carries on
      have hrest := (carries_createDirAll b.config.output).bind fun _ =>
        (carries_writeSheets hb theme).bind fun _ =>
          (show Carries b.takeTemplates from carries_modify _).bind fun _ =>
            (carries_mapM entries (carries_buildExample hb theme)).bind fun built =>
              carries_finish (b := b) entries built
      exact .inr (hrest s₂ err s' h)

end grammars

/-- **A catalog that fails** fails the build, if the theme does not. -/
theorem build_of_catalog_error {err : BuildError} {s₁ : Session}
    (h : catalog b.config.toLayout s = (.error err, s₁)) : ∃ refusal s', s.Untouched s' ∧
      b.build s = (.error refusal, s') ∧
      (refusal = err ∨ refusal = .highlight (.unknownTheme b.config.theme)) := by
  unfold Builder.build
  cases hf : Theme.find b.config.theme with
  | error e =>
    refine ⟨.highlight e, s, .refl s, rfl, .inr ?_⟩
    unfold Theme.find at hf
    split at hf <;> cases hf
    rfl
  | ok theme =>
    have hsame : s.Untouched s₁ := by
      obtain ⟨s₂, hsame, hrun⟩ := catalog_run b.config.toLayout s
      rw [hrun] at h
      split at h <;> cases h
      exact hsame
    refine ⟨err, s₁, hsame, ?_, .inl rfl⟩
    rw [bind_ok (show (orHighlight (.ok theme)) s = (.ok theme, s) from rfl), bind_error h]

/-- Looking at the templates changes nothing, and fails only if their directory is missing. -/
theorem openTemplates_frame (directory : Option Path) (s : Session) :
    s.Untouched (openTemplates directory s).2 := by
  cases directory with
  | none => exact .refl s
  | some directory =>
    rw [openTemplates, bind_ok (files_run s)]
    split
    · rw [bind_ok (report_run _ s)]
      unfold templatesIn
      rw [bind_ok (files_run _)]
      let s₁ := s.reporting (.loadingTemplates directory)
      obtain ⟨s', hrun, hsame⟩ := forM_report
        ((overriddenIn s₁.files directory).map fun name =>
          .usingTemplate (directory.join (Path.ofString name))) s₁
      rw [List.forM_eq_forM, List.forM_map, ← List.forM_eq_forM] at hrun
      rw [bind_ok hrun]
      exact (s.untouched_reporting _).trans hsame
    · exact .refl s

/-- **Opening a builder** changes nothing, whether it succeeds or not, and takes the built-in
grammars. -/
theorem openBuilder_frame (config : Config) (runner : Runner) (s : Session) :
    s.Untouched (openBuilder config runner s).2 ∧
      ∀ b, (openBuilder config runner s).1 = .ok b →
        b.highlighter = Registry.builtin.highlighter := by
  have hsame := openTemplates_frame config.templates s
  unfold openBuilder
  cases h : openTemplates config.templates s with
  | mk r s₁ =>
    rw [h] at hsame
    cases r with
    | error err =>
      rw [bind_error h]
      exact ⟨hsame, fun b hb => by cases hb⟩
    | ok templates =>
      rw [bind_ok h]
      exact ⟨hsame, fun b hb => by cases hb; rfl⟩

/-! ## The command -/

section command

open CommandLine

/-- **Loading the settings** changes nothing. A file that is there and cannot be read as settings is
an error. -/
theorem loadSettings_run (config : Path) (s : Session) : ∃ s', s.Untouched s' ∧
    loadSettings config s =
      (if s.files.exists config then
        match s.files.readText config with
        | .error _ => .error (.readSettings config)
        | .ok text =>
          match Settings.Project.read? text with
          | none => .error (.parseSettings config)
          | some settings => .ok settings
      else .ok {}, s') := by
  unfold loadSettings
  rw [bind_ok (show (get : Commanding Session) s = (.ok s, s) from rfl)]
  cases he : s.files.exists config with
  | false => exact ⟨s.reporting (.noConfig config), s.untouched_reporting _, rfl⟩
  | true =>
    cases ht : s.files.readText config with
    | error e => exact ⟨s, .refl s, rfl⟩
    | ok text =>
      simp only [Bool.not_true, Bool.false_eq_true, if_false, if_true]
      cases Settings.Project.read? text with
      | none => exact ⟨s, .refl s, rfl⟩
      | some settings =>
        exact ⟨s.reporting (.loadedConfig config), s.untouched_reporting _, rfl⟩

variable {config : Path} {output : Option Path} {minify : Option Bool} {err : CommandError}

/-- An error of a build within a command. -/
theorem of_ofBuilding {m : Building α} (h : ofBuilding m s = (.error err, s')) :
    ∃ e, err = .build e ∧ m s = (.error e, s') := by
  unfold ofBuilding at h
  cases hm : m s with
  | mk r s₁ =>
    rw [hm] at h
    cases r with
    | error e => cases h; exact ⟨e, rfl, rfl⟩
    | ok a => cases h

/-- A command without settings fails. -/
theorem buildSite_of_error {s₁ : Session}
    (h : loadSettings config (s.reporting .building) = (.error err, s₁)) :
    buildSite config output minify s = (.error err, s₁) := by
  unfold buildSite
  rw [bind_ok (show CommandLine.report .building s = (.ok (), s.reporting .building) from rfl),
    bind_error h]

/-- **A command that fails** has no settings, or a build that fails. -/
theorem of_buildSite (h : buildSite config output minify s = (.error err, s')) :
    s.Untouched s' ∨ ∃ e, err = .build e ∧ (e.Refuses → s.Untouched s') := by
  obtain ⟨s₁, hs₁, hload⟩ := loadSettings_run config (s.reporting .building)
  have hsame : s.Untouched s₁ := (s.untouched_reporting _).trans hs₁
  unfold buildSite at h
  rw [bind_ok (show CommandLine.report .building s = (.ok (), s.reporting .building) from rfl)] at h
  rcases bind_eq_error h with h | ⟨settings, s₂, hsettings, h⟩
  · obtain rfl : s₁ = s' := congrArg Prod.snd (hload.symm.trans h)
    exact .inl hsame
  · obtain rfl : s₁ = s₂ := congrArg Prod.snd (hload.symm.trans hsettings)
    rcases bind_eq_error h with h | ⟨result, s₃, -, h⟩
    · obtain ⟨e, rfl, hbuilding⟩ := of_ofBuilding h
      refine .inr ⟨e, rfl, fun he => ?_⟩
      rcases bind_eq_error hbuilding with h | ⟨b, s₂, hopen, h⟩
      · have hframe := (openBuilder_frame (settings.configFor output minify)
          settings.command.runner s₁).1
        rw [h] at hframe
        exact hsame.trans hframe
      · have hframe := openBuilder_frame (settings.configFor output minify)
          settings.command.runner s₁
        rw [hopen] at hframe
        exact (hsame.trans hframe.1).trans
          ((build_error_cases (hframe.2 b rfl) h).resolve_right (not_not.2 he))
    · cases h

end command

/-! ## Everything that is refused -/

/-- **What is refused is refused before anything happens**, with any grammars, files, configuration
and runner. Opening a builder changes no file and runs nothing. If a build fails with an error that
speaks of the configuration, no file has been changed and nothing has been run. A catalog that fails
for whatever reason fails the build, and nothing has happened, either. The same holds of the command
if there are no settings to be read from the file that is there. -/
theorem refused_before_anything (r : Registry) :
    (∀ config runner s err s', openBuilder config runner s = (.error err, s') → s.Untouched s') ∧
    (∀ b : Builder, b.highlighter = r.highlighter → ∀ s err s', b.build s = (.error err, s') →
      err.Refuses → s.Untouched s') ∧
    (∀ (b : Builder) s err s₁, catalog b.config.toLayout s = (.error err, s₁) →
      ∃ refusal s', b.build s = (.error refusal, s') ∧ s.Untouched s' ∧
        (refusal = err ∨ refusal = .highlight (.unknownTheme b.config.theme))) ∧
    (∀ config output minify s, s.files.exists config = true →
      (∀ text, s.files.readText config = .ok text → Settings.Project.read? text = none) →
      ∃ err s', CommandLine.buildSite config output minify s = (.error err, s') ∧
        (err = .readSettings config ∨ err = .parseSettings config) ∧ s.Untouched s') ∧
    ∀ config output minify s err s',
      CommandLine.buildSite config output minify s = (.error err, s') →
      (∀ e, err = .build e → e.Refuses) → s.Untouched s' := by
  refine ⟨fun config runner s err s' h => ?_, fun b hb s err s' h he => ?_,
    fun b s err s₁ h => ?_, fun config output minify s hc ht => ?_,
    fun config output minify s err s' h he => ?_⟩
  · have hsame := (openBuilder_frame config runner s).1
    rw [h] at hsame
    exact hsame
  · exact (build_error_cases hb h).resolve_right (not_not.2 he)
  · obtain ⟨refusal, s', hsame, hbuild, hr⟩ := build_of_catalog_error h
    exact ⟨refusal, s', hbuild, hsame, hr⟩
  · obtain ⟨s₁, hs₁, hload⟩ := loadSettings_run config (s.reporting .building)
    have hsame : s.Untouched s₁ := (s.untouched_reporting _).trans hs₁
    rw [show (s.reporting .building).files = s.files from rfl, if_pos hc] at hload
    cases htext : s.files.readText config with
    | error e =>
      rw [htext] at hload
      exact ⟨_, s₁, buildSite_of_error hload, .inl rfl, hsame⟩
    | ok text =>
      rw [htext] at hload
      simp only [ht text htext] at hload
      exact ⟨_, s₁, buildSite_of_error hload, .inr rfl, hsame⟩
  · rcases of_buildSite h with hsame | ⟨e, rfl, hsame⟩
    · exact hsame
    · exact hsame (he e rfl)

/-- One example, a manifest that lists none, and settings that cannot be parsed. -/
def misconfigured : Session where
  files :=
    { entries := [([.text "examples".toList], .directory),
        ([.text "a".toList, .text "examples".toList], .directory),
        ([.text "order.txt".toList], .file []),
        ([.text "site.toml".toList], .file (Text.Utf8.ofString "["))] }

/-- A builder for a configuration; its runner would fail. -/
def refusing (config : Config) : Builder where
  config := config
  templates := {}
  runner := ⟨fun t source => { result := .error (.failed "none" source "" []), files := t }⟩

/-- The templates are missing; the theme is unknown; the manifest lists too few examples; the
settings cannot be parsed. -/
theorem refused_before_anything_four :
    (∃ s', openBuilder { templates := some (Path.ofString "none") } (refusing {}).runner
      misconfigured = (.error (.config (.noTemplates (Path.ofString "none"))), s') ∧
        misconfigured.Untouched s') ∧
    (∃ s', (refusing { theme := "none" }).build misconfigured =
      (.error (.highlight (.unknownTheme "none")), s') ∧ misconfigured.Untouched s') ∧
    (∃ s', (refusing { manifest := some (Path.ofString "order.txt") }).build misconfigured =
      (.error (.config (.manifestCount (Path.ofString "order.txt") 0 (Path.ofString "examples") 1)),
        s') ∧ misconfigured.Untouched s') ∧
    ∃ s', CommandLine.buildSite (Path.ofString "site.toml") none none misconfigured =
      (.error (.parseSettings (Path.ofString "site.toml")), s') ∧ misconfigured.Untouched s' := by
  obtain ⟨hopen, hbuild, -, -, hcommand⟩ := refused_before_anything Registry.builtin
  have hmissing : (openBuilder { templates := some (Path.ofString "none") } (refusing {}).runner
      misconfigured).1 = .error (.config (.noTemplates (Path.ofString "none"))) := rfl
  have htheme : ((refusing { theme := "none" }).build misconfigured).1 =
      .error (.highlight (.unknownTheme "none")) := by decide +kernel
  have hlisted : ((refusing { manifest := some (Path.ofString "order.txt") }).build
      misconfigured).1 = .error (.config (.manifestCount (Path.ofString "order.txt") 0
        (Path.ofString "examples") 1)) := by decide +kernel
  have hsettings : (CommandLine.buildSite (Path.ofString "site.toml") none none
      misconfigured).1 = .error (.parseSettings (Path.ofString "site.toml")) := by decide +kernel
  exact ⟨⟨_, Prod.ext hmissing rfl, hopen _ _ _ _ _ (Prod.ext hmissing rfl)⟩,
    ⟨_, Prod.ext htheme rfl, hbuild _ rfl _ _ _ (Prod.ext htheme rfl) trivial⟩,
    ⟨_, Prod.ext hlisted rfl, hbuild _ rfl _ _ _ (Prod.ext hlisted rfl) trivial⟩,
    ⟨_, Prod.ext hsettings rfl,
      hcommand _ _ _ _ _ _ (Prod.ext hsettings rfl) fun e he => by cases he⟩⟩

end LiterateSite.Site
