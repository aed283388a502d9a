import Mathlib.Data.List.Forall2
import Mathlib.Data.List.Infix
import LiterateSite.Proofs.Site.Pages

/-!
# Two builds side by side

Steps are run on two sessions whose files are related, and which have loaded the same templates.
Either both fail, or both succeed, and then their results and files are related again.

* `Alike`: the ends of two such runs.
* `Lockstep`: steps that end alike on all related files.
* `Lockstep.bind`, `Lockstep.mapM`: **steps one after the other.**
* `lockstep_report`, `lockstep_read`, `lockstep_throw` and the like: the steps of a build that
  leave the files as they are.
* `lockstep_render`: **what is rendered is the same** if the templates are.
-/

namespace LiterateSite.Site

open Files

/-- Both runs have failed, on files with a property `I`; or both have succeeded, with the same
templates loaded, and with results and files that are related by `R`. -/
inductive Alike {α β : Type} (I : Tree → Prop) (R : α → β → Tree → Tree → Prop) :
    Except BuildError α × Session → Except BuildError β × Session → Prop
  | failed {e e' : BuildError} {s u : Session} (hs : I s.files) (hu : I u.files) :
    Alike I R (.error e, s) (.error e', u)
  | done {a : α} {b : β} {s u : Session} (h : R a b s.files u.files) (hl : s.loaded = u.loaded) :
    Alike I R (.ok a, s) (.ok b, u)

/-- On files that are related by `P`, and with the same templates loaded, the two steps end
alike. -/
def Lockstep {α β : Type} (I : Tree → Prop) (P : Tree → Tree → Prop) (m : Building α)
    (m' : Building β) (R : α → β → Tree → Tree → Prop) : Prop :=
  ∀ s u, P s.files u.files → s.loaded = u.loaded → Alike I R (m s) (m' u)

variable {α β γ δ : Type} {I : Tree → Prop} {P : Tree → Tree → Prop}
  {R : α → β → Tree → Tree → Prop} {R' : γ → δ → Tree → Tree → Prop}

/-! ## Ends -/

section ends

variable {x : Except BuildError α × Session} {y : Except BuildError β × Session}

/-- **If one of two runs that end alike succeeds**, so does the other one. -/
theorem Alike.ok_iff (h : Alike I R x y) : (∃ a, x.1 = .ok a) ↔ ∃ b, y.1 = .ok b := by
  cases h with
  | failed hs hu => simp
  | done h hl => simp

theorem Alike.of_ok (h : Alike I R x y) {a : α} (ha : x.1 = .ok a) :
    ∃ b, R a b x.2.files y.2.files := by
  cases h with
  | failed hs hu => cases ha
  | @done a' b s u h hl =>
    cases ha
    exact ⟨b, h⟩

theorem Alike.invariant (h : Alike I R x y) (hR : ∀ a b t u, R a b t u → I t) :
    I x.2.files := by
  cases h with
  | failed hs hu => exact hs
  | done h hl => exact hR _ _ _ _ h

end ends

/-! ## Steps one after the other -/

theorem Lockstep.bind {m : Building α} {m' : Building β} {f : α → Building γ}
    {f' : β → Building δ} (h : Lockstep I P m m' R)
    (hf : ∀ a b, Lockstep I (R a b) (f a) (f' b) R') :
    Lockstep I P (m >>= f) (m' >>= f') R' := by
  intro s u hp hl
  have hm := h s u hp hl
  cases hx : m s with
  | mk r s₁ =>
    cases hy : m' u with
    | mk r' u₁ =>
      rw [hx, hy] at hm
      cases hm with
      | failed hs hu =>
        rw [Building.bind_error hx, Building.bind_error hy]
        exact .failed hs hu
      | done h hl =>
        rw [Building.bind_ok hx, Building.bind_ok hy]
        exact hf _ _ _ _ h hl

/-- A fact that does not depend on the files. -/
theorem Lockstep.of_and {c : Prop} {m : Building α} {m' : Building β}
    (h : c → Lockstep I P m m' R) : Lockstep I (fun t u => c ∧ P t u) m m' R :=
  fun s u hp => h hp.1 s u hp.2

theorem Lockstep.mono {P' : Tree → Tree → Prop} {R' : α → β → Tree → Tree → Prop}
    {m : Building α} {m' : Building β} (h : Lockstep I P m m' R) (hp : ∀ t u, P' t u → P t u)
    (hr : ∀ a b t u, R a b t u → R' a b t u) : Lockstep I P' m m' R' := by
  intro s u hp' hl
  have hend := h s u (hp _ _ hp') hl
  generalize m s = x at hend ⊢
  generalize m' u = y at hend ⊢
  cases hend with
  | failed hs hu => exact .failed hs hu
  | done h hl => exact .done (hr _ _ _ _ h) hl

theorem lockstep_pure {a : α} {b : β} (h : ∀ t u, P t u → R a b t u) :
    Lockstep I P (pure a) (pure b) R := fun _ _ hp hl => .done (h _ _ hp) hl

/-- **A list of steps**, where `P` says how the files are related before the steps that are left. -/
theorem Lockstep.mapM {ε : Type} (K : α → β → Prop) (P : List ε → Tree → Tree → Prop)
    {f : ε → Building α} {g : ε → Building β} (xs : List ε)
    (h : ∀ x rest, x :: rest <:+ xs →
      Lockstep I (P (x :: rest)) (f x) (g x) fun a b t u => K a b ∧ P rest t u) :
    Lockstep I (P xs) (xs.mapM f) (xs.mapM g) fun as bs t u =>
      List.Forall₂ K as bs ∧ P [] t u := by
  -- on the list; the relation before the first step speaks of all that are left
  induction xs with
  | nil => exact lockstep_pure fun t u hp => ⟨.nil, hp⟩
  | cons x rest ih =>
    rw [List.mapM_cons, List.mapM_cons]
    refine (h x rest List.suffix_rfl).bind fun a b s u hp hl => ?_
    have hrest := ih fun y later hy => h y later (hy.trans (List.suffix_cons x rest))
    refine (hrest.bind fun as bs => ?_) s u hp.2 hl
    exact lockstep_pure fun t u hp' => ⟨.cons hp.1 hp'.1, hp'.2⟩

/-! ## Steps that leave the files as they are -/

theorem lockstep_report (v v' : Event) :
    Lockstep I P (Building.report v) (Building.report v') fun _ _ t u => P t u :=
  fun _ _ hp hl => .done hp hl

/-- The templates of a builder are taken in both runs. -/
theorem lockstep_takeTemplates (b : Builder) :
    Lockstep I P b.takeTemplates b.takeTemplates fun _ _ t u => P t u :=
  fun _ _ hp _ => .done hp rfl

section failures

variable (hP : ∀ t u, P t u → I t ∧ I u)

include hP

theorem lockstep_throw (e e' : BuildError) :
    Lockstep I P (throw e : Building α) (throw e' : Building β) R :=
  fun _ _ hp _ => .failed (hP _ _ hp).1 (hP _ _ hp).2

theorem lockstep_orHighlight (r : Except Highlight.HighlightError α) :
    Lockstep I P (Building.orHighlight r) (Building.orHighlight r) fun a b t u =>
      a = b ∧ P t u := by
  cases r with
  | ok a => exact lockstep_pure fun t u hp => ⟨rfl, hp⟩
  | error e => exact lockstep_throw hP _ _

/-- **What is rendered is the same** if the templates are. -/
theorem lockstep_render {b : Builder}
    (hsource : ∀ (ts : Templates) t u, P t u → ts.directory = b.templates.directory →
      ts.source t = ts.source u)
    (page : Template.Source → Except Template.TemplateError Template.Rendering) :
    Lockstep I P (b.render page) (b.render page) fun x y t u => x = y ∧ P t u := by
  intro s u hp hl
  have hsame : b.sourceAt s = b.sourceAt u := by
    unfold Builder.sourceAt Builder.templatesAt
    rw [hl]
    exact hsource _ _ _ hp rfl
  rw [render_run, render_run, hsame]
  cases page (b.sourceAt u) with
  | error err => exact .failed (hP _ _ hp).1 (hP _ _ hp).2
  | ok rendering =>
    refine .done ⟨rfl, hp⟩ ?_
    show s.loaded ++ (b.sourceAt s).sourcesOf _ = u.loaded ++ (b.sourceAt u).sourcesOf _
    rw [hl, hsame]

/-- **Reading a path that says the same** in both trees. -/
theorem lockstep_read {p : Path} (hr : ∀ t u, P t u → t.read p = u.read p) :
    Lockstep I P (Building.read p) (Building.read p) fun a b t u =>
      a = b ∧ t.read p = .ok a ∧ P t u := by
  intro s u hp hl
  have he := hr _ _ hp
  cases hs : s.files.read p with
  | ok content =>
    rw [Building.read_ok hs, Building.read_ok (he ▸ hs)]
    exact .done ⟨rfl, hs, hp⟩ hl
  | error e =>
    rw [Building.read_error hs, Building.read_error (he ▸ hs)]
    exact .failed (hP _ _ hp).1 (hP _ _ hp).2

end failures

end LiterateSite.Site
