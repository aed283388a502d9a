import LiterateSite.Proofs.Files.Rewrite
import LiterateSite.Proofs.Site.Pages
import LiterateSite.Proofs.Site.Places

/-!
# Which files the steps of a build change

In trees without links, with a runner that touches no file.

* `Touches`: **steps that change at most the files at the ends of some paths**, whether they succeed
  or not. `Touches.bind`, `touches_mapM`: steps one after the other.
* `touches_refresh`, `touches_ensureFresh`: a call for a transcript changes the kept files.
* `touches_buildExample`: making a page changes the kept files and the page.
* `touches_writeSheets`, `touches_writeIndex`: the other files of the output.
-/

namespace LiterateSite.Site

open Files Files.Tree Text

/-- **Steps that change at most the files at the ends of the paths.** -/
def Touches {α : Type} (P : Set Path) (m : Building α) : Prop :=
  ∀ s, s.files.Linkless → Rewrites P s.files (m s).2.files

variable {α β : Type} {P Q : Set Path} {b : Builder} {theme : Highlight.Theme} {e : Entry}
  {s s' : Session} {t t' : Tree} {p : Path}

namespace Building

/-- The steps change no file. -/
def Still {α : Type} (m : Building α) : Prop := ∀ s, (m s).2.files = s.files

end Building

open Building

theorem Building.Still.touches {m : Building α} (h : m.Still) : Touches P m := by
  intro s _
  rw [h s]
  exact Rewrites.refl P s.files

theorem Touches.mono {m : Building α} (h : Touches P m) (hsub : P ⊆ Q) : Touches Q m :=
  fun s hs => (h s hs).mono hsub

theorem Touches.bind {m : Building α} {f : α → Building β} (h : Touches P m)
    (hf : ∀ a, Touches P (f a)) : Touches P (m >>= f) := by
  intro s hs
  have hm := h s hs
  cases hr : m s with
  | mk r s₁ =>
    rw [hr] at hm
    cases r with
    | error err => rw [bind_error hr]; exact hm
    | ok a => rw [bind_ok hr]; exact hm.trans (hf a s₁ (hm.linkless hs))

/-- **A list of steps.** -/
theorem touches_mapM {γ : Type} {f : γ → Building α} (xs : List γ) (h : ∀ x ∈ xs, Touches P (f x)) :
    Touches P (xs.mapM f) := by
  induction xs with
  | nil =>
    rw [List.mapM_nil]
    exact Still.touches fun _ => rfl
  | cons x rest ih =>
    rw [List.mapM_cons]
    refine (h x List.mem_cons_self).bind fun a => ?_
    refine (ih fun y hy => h y (List.mem_cons_of_mem _ hy)).bind fun as => ?_
    exact Still.touches fun _ => rfl

/-! ## Single steps -/

theorem still_pure (a : α) : Still (pure a : Building α) := fun _ => rfl

theorem still_throw (err : BuildError) : Still (throw err : Building α) := fun _ => rfl

theorem still_files : Still Building.files := fun _ => rfl

theorem still_report (v : Event) : Still (Building.report v) := fun _ => rfl

theorem still_orHighlight (r : Except Highlight.HighlightError α) : Still (orHighlight r) := by
  intro s
  cases r <;> rfl

theorem still_read (p : Path) : Still (Building.read p) := by
  intro s
  cases hr : s.files.read p with
  | ok content => rw [read_ok hr]
  | error err => rw [read_error hr]

theorem still_run {runner : Runner} (hf : ∀ t p, (runner.run t p).files = t) (source : Path) :
    Still (Building.run runner source) := by
  intro s
  cases ho : (runner.run s.files source).result with
  | ok output => rw [run_ok ho]; exact hf s.files source
  | error err => rw [run_error ho]; exact hf s.files source

theorem touches_write (p : Path) (content : List UInt8) :
    Touches {p} (Building.write p content) := by
  intro s hs
  cases hw : s.files.write p content with
  | ok t => rw [write_ok hw]; exact rewrites_write hs hw
  | error err => rw [write_error hw]; exact Rewrites.refl _ _

theorem rewrites_removeIfThere (hs : t.Linkless) (h : removeIfThere t p = .ok t') :
    Rewrites {p} t t' := by
  unfold removeIfThere at h
  split at h
  · cases h
    exact Rewrites.refl _ _
  · exact rewrites_unlink hs h

theorem touches_remove (p : Path) : Touches {p} (Building.change p (removeIfThere · p)) := by
  intro s hs
  cases hr : removeIfThere s.files p with
  | ok t => rw [change_ok hr]; exact rewrites_removeIfThere hs hr
  | error err => rw [change_error hr]; exact Rewrites.refl _ _

/-! ## Calls -/

section calls

variable {runner : Runner} (hf : ∀ t p, (runner.run t p).files = t)

include hf

theorem touches_refresh (e : Entry) (digest : String) :
    Touches (Set.range e.kept) (refresh runner e digest) := by
  have hkept : ∀ k : Kept, {e.kept k} ⊆ Set.range e.kept := by
    rintro k p rfl
    exact ⟨k, rfl⟩
  unfold refresh
  refine ((touches_remove e.hashPath).mono (hkept .digest)).bind fun _ => ?_
  refine (still_run hf e.source).touches.bind fun output => ?_
  refine ((touches_write e.transcriptPath _).mono (hkept .transcript)).bind fun _ => ?_
  refine ((touches_write e.hashPath _).mono (hkept .digest)).bind fun _ => ?_
  exact (still_pure _).touches

/-- **A call for a transcript** changes the kept files of its example. -/
theorem touches_ensureFresh (e : Entry) (source : List UInt8) :
    Touches (Set.range e.kept) (ensureFresh runner e source) := by
  unfold ensureFresh
  refine still_files.touches.bind fun t => ?_
  cases lookUp t e (sourceDigest e.id source) with
  | error err => exact (still_throw err).touches
  | ok found =>
    refine (still_report _).touches.bind fun _ => ?_
    split
    · refine (touches_refresh hf e _).bind fun text => ?_
      exact (still_pure _).touches
    · exact (still_pure _).touches

end calls

/-! ## Pages -/

theorem still_finishSheet (name : String) (css : List Char) : Still (b.finishSheet name css) := by
  intro s
  obtain ⟨s', hs', hrun⟩ := finishSheet_run b name css s
  rw [hrun]
  exact hs'.files

/-- **Rendering changes no file.** -/
theorem still_render (b : Builder)
    (page : Template.Source → Except Template.TemplateError Template.Rendering) :
    Still (b.render page) := by
  intro s
  rw [render_run]
  split <;> rfl

section pages

variable (hf : ∀ t p, (b.runner.run t p).files = t)

include hf

/-- **Making a page** changes the kept files of the example and the page. -/
theorem touches_buildExample (theme : Highlight.Theme) (e : Entry) :
    Touches (insert (b.outputPath (e.id ++ ".html")) (Set.range e.kept))
      (b.buildExample theme e) := by
  unfold Builder.buildExample
  refine (still_read e.source).touches.bind fun bytes => ?_
  refine ((touches_ensureFresh hf e bytes).mono (Set.subset_insert _ _)).bind fun x => ?_
  refine Touches.bind (Still.touches fun s => ?_) fun html => ?_
  · obtain ⟨names, hrun⟩ := renderPage_run b theme _ _ s
    rw [hrun]
    rfl
  · refine ((touches_write _ _).mono ?_).bind fun _ => ?_
    · rintro p rfl
      exact Set.mem_insert _ _
    · refine (still_report _).touches.bind fun _ => ?_
      exact (still_pure _).touches

end pages

theorem touches_writeSheets (theme : Highlight.Theme) :
    Touches {b.outputPath "site.css", b.outputPath "code.css"} (b.writeSheets theme) := by
  unfold Builder.writeSheets
  refine (still_finishSheet _ _).touches.bind fun site => ?_
  refine (still_orHighlight _).touches.bind fun code => ?_
  refine (still_finishSheet _ _).touches.bind fun css => ?_
  refine ((touches_write _ _).mono ?_).bind fun _ => ?_
  · rintro p rfl
    exact .inl rfl
  · refine (touches_write _ _).mono ?_
    rintro p rfl
    exact .inr rfl

theorem touches_writeIndex (examples : List Example) :
    Touches {b.outputPath "index.html"} (b.writeIndex examples) := by
  unfold Builder.writeIndex
  exact (still_render b _).touches.bind fun html => touches_write _ _

end LiterateSite.Site
