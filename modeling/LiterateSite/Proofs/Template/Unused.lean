import LiterateSite.Proofs.Template.Writes

/-!
# Templates that are not used

A rendering that goes through reads the templates whose names it uses and no others.

* `Follows`: steps that do what others do, where those succeed; it goes through steps one after the
  other (`Follows.bind`).
* `Loads`, `Machine.Follows`: a machine that loads and reaches whatever another one does.
* `follows_evaluate`, `follows_run`, `follows_jump`: **what is done with a machine** is done with
  one that follows it, from expressions to places.
* `rendering_of_loads`, `render_of_loads`: **a rendering that goes through** although some templates
  cannot be read is the same with anything in their place; `Source.only`,
  `renderExample_of_unused`, `renderIndex_of_unused` for pages.
-/

namespace LiterateSite.Template

open Eval

variable {α β : Type} {x x' y y' : Eval α} {f f' : α → Eval β} {m m' : Machine}

/-! ## Steps -/

/-- The steps `x'` do what `x` do, where those succeed. -/
def Follows (x x' : Eval α) : Prop := ∀ st r, x st = .ok r → x' st = .ok r

namespace Follows

theorem refl (x : Eval α) : Follows x x := fun _ _ h => h

/-- **Steps after one another.** -/
theorem bind (hx : Follows x x') (hf : ∀ a, Follows (f a) (f' a)) :
    Follows (x >>= f) (x' >>= f') := by
  intro st r h
  cases hxs : x st with
  | error e =>
    -- a failure of the first step would be one of both
    have herror : (x >>= f) st = .error e := by
      show (x st >>= fun p => f p.1 p.2) = _
      rw [hxs]
      rfl
    rw [herror] at h
    cases h
  | ok p =>
    obtain ⟨a, st'⟩ := p
    rw [bind_ok hxs] at h
    rw [bind_ok (hx st _ hxs)]
    exact hf a st' r h

theorem after (x : Eval α) (hf : ∀ a, Follows (f a) (f' a)) : Follows (x >>= f) (x >>= f') :=
  (refl x).bind hf

theorem ite {c : Prop} [Decidable c] (hx : Follows x x') (hy : Follows y y') :
    Follows (if c then x else y) (if c then x' else y') := by
  split
  · exact hx
  · exact hy

theorem inScope (frame : Frame) (h : Follows x x') :
    Follows (inScope frame x) (inScope frame x') := by
  unfold Eval.inScope
  exact after _ fun _ => h.bind fun _ => refl _

theorem captured {x x' : Eval Unit} (h : Follows x x') : Follows (captured x) (captured x') := by
  unfold Eval.captured
  exact after _ fun _ => after _ fun _ => h.bind fun _ => refl _

theorem forM {g g' : α → Eval PUnit} (h : ∀ a, Follows (g a) (g' a)) (l : List α) :
    Follows (l.forM g) (l.forM g') := by
  induction l with
  | nil => exact refl _
  | cons a rest ih => exact (h a).bind fun _ => ih

theorem filterAuxM {g g' : α → Eval Bool} (h : ∀ a, Follows (g a) (g' a)) (l : List α) :
    ∀ acc, Follows (l.filterAuxM g acc) (l.filterAuxM g' acc) := by
  induction l with
  | nil => intro acc; exact refl _
  | cons a rest ih => intro acc; exact (h a).bind fun b => ih _

theorem filterM {g g' : α → Eval Bool} (h : ∀ a, Follows (g a) (g' a)) (l : List α) :
    Follows (l.filterM g) (l.filterM g') := (filterAuxM h l []).bind fun _ => refl _

theorem foldlM {g g' : β → α → Eval β} (h : ∀ b a, Follows (g b a) (g' b a)) (l : List α) :
    ∀ b, Follows (l.foldlM g b) (l.foldlM g' b) := by
  induction l with
  | nil => intro b; exact refl _
  | cons a rest ih => intro b; exact (h b a).bind fun b' => ih b'

end Follows

/-- The same templates are loaded by `load'` as by `load`, but for some that `load` cannot read. A
template that is not there does not count as one of those: what is done then may be to go on. -/
def Loads (load load' : List Char → Except TemplateError Document) : Prop :=
  ∀ name, load' name = load name ∨ ∃ e, load name = .error e ∧ e ≠ .notFound

/-- **The machine `m'` follows `m`**: it loads what `m` loads, and it goes where `m` goes. -/
structure Machine.Follows (m m' : Machine) : Prop where
  load : Loads m.load m'.load
  jump : ∀ place, Template.Follows (m.jump place) (m'.jump place)

/-! ## Expressions -/

/-- A call of what is not a variable. -/
theorem evaluate_call {e : Expr} {args : List Expr} (h : ¬∃ name, e = .var name) :
    evaluate m (.call e args) = (do
      let v ← evaluate m e
      callValue m v (argumentsOf args (← evaluateBoth m args))) := by
  rw [evaluate]
  exact fun name hname => h ⟨name, hname⟩

theorem follows_callValue (h : m.Follows m') (v : Value) (a : Arguments) :
    Follows (callValue m v a) (callValue m' v a) := by
  cases v with
  | routine r => exact (h.jump _).captured
  | _ => exact Follows.refl _

theorem follows_loopAgain (h : m.Follows m') (v : Value) :
    Follows (loopAgain m v) (loopAgain m' v) := by
  unfold loopAgain
  refine .after _ fun st => ?_
  cases st.loop?.bind (·.recursion) with
  | none => exact .refl _
  | some body => exact .after _ fun st => .after _ fun items => h.jump _

theorem follows_callFunction (h : m.Follows m') (name : List Char) (a : Arguments) :
    Follows (callFunction m name a) (callFunction m' name a) := by
  unfold callFunction
  refine .ite (.ite (h.jump _).captured (.refl _)) (.ite ?_ (.after _ fun st => ?_))
  · split
    · exact (follows_loopAgain h _).captured
    · exact .refl _
  · cases st.lookup name with
    | some v => exact follows_callValue h v a
    | none => exact .refl _

theorem follows_callMethod (h : m.Follows m') (v : Value) (name : List Char) (a : Arguments) :
    Follows (callMethod m v name a) (callMethod m' v name a) := by
  unfold callMethod
  refine .after _ fun st => ?_
  split
  · exact .refl _
  · split
    · exact follows_callValue h _ a
    · exact .refl _

mutual

/-- **The value of an expression.** -/
theorem follows_evaluate (h : m.Follows m') : ∀ e : Expr, Follows (evaluate m e) (evaluate m' e)
  | .const v => by rw [evaluate, evaluate]; exact .refl _
  | .var name => by rw [evaluate, evaluate]; exact .refl _
  | .list items => by
    rw [evaluate, evaluate]
    exact (follows_evaluateAll h items).bind fun _ => .refl _
  | .map keys values => by
    rw [evaluate, evaluate]
    exact (follows_evaluateAll h keys).bind fun _ =>
      (follows_evaluateAll h values).bind fun _ => .refl _
  | .attr e name => by
    rw [evaluate, evaluate]
    exact .after _ fun _ => (follows_evaluate h e).bind fun _ => .refl _
  | .item e key => by
    rw [evaluate, evaluate]
    exact .after _ fun _ => (follows_evaluate h e).bind fun _ =>
      (follows_evaluate h key).bind fun _ => .refl _
  | .slice e first last step => by
    rw [evaluate, evaluate]
    exact (follows_evaluate h e).bind fun _ => (follows_evaluate h first).bind fun _ =>
      (follows_evaluate h last).bind fun _ => (follows_evaluate h step).bind fun _ => .refl _
  | .neg e => by
    rw [evaluate, evaluate]
    exact (follows_evaluate h e).bind fun _ => .refl _
  | .not e => by
    rw [evaluate, evaluate]
    exact (follows_evaluate h e).bind fun _ => .refl _
  | .both a b => by
    rw [evaluate, evaluate]
    exact (follows_evaluate h a).bind fun _ => .ite (follows_evaluate h b) (.refl _)
  | .either a b => by
    rw [evaluate, evaluate]
    exact (follows_evaluate h a).bind fun _ => .ite (.refl _) (follows_evaluate h b)
  | .binary op a b => by
    rw [evaluate, evaluate]
    exact (follows_evaluate h a).bind fun _ => (follows_evaluate h b).bind fun _ => .refl _
  | .compare first ops others => by
    rw [evaluate, evaluate]
    exact (follows_evaluate h first).bind fun v =>
      (follows_evaluateChain h others v ops).bind fun _ => .refl _
  | .ifElse yes test no => by
    rw [evaluate, evaluate]
    exact (follows_evaluate h test).bind fun _ =>
      .ite (follows_evaluate h yes) (follows_evaluate h no)
  | .filter name e args => by
    rw [evaluate, evaluate]
    exact (follows_evaluate h e).bind fun _ =>
      (follows_evaluateBoth h args).bind fun _ => .refl _
  | .test name e args => by
    rw [evaluate, evaluate]
    exact (follows_evaluate h e).bind fun _ =>
      (follows_evaluateBoth h args).bind fun _ => .refl _
  | .call e args => by
    have hboth : Follows (evaluateBoth m args) (evaluateBoth m' args) := follows_evaluateBoth h args
    have he : Follows (evaluate m e) (evaluate m' e) := follows_evaluate h e
    by_cases hvar : ∃ name, e = .var name
    · obtain ⟨name, rfl⟩ := hvar
      rw [evaluate, evaluate]
      exact hboth.bind fun _ => follows_callFunction h name _
    · rw [evaluate_call hvar, evaluate_call hvar]
      exact he.bind fun v => hboth.bind fun _ => follows_callValue h v _
  | .method e name args => by
    rw [evaluate, evaluate]
    exact (follows_evaluate h e).bind fun v =>
      (follows_evaluateBoth h args).bind fun _ => follows_callMethod h v name _
  | .block name => by
    rw [evaluate, evaluate]
    exact Follows.captured (.after _ fun _ => .ite (h.jump _) (.refl _))
  | .named _ e => by
    rw [evaluate, evaluate]
    exact follows_evaluate h e
  | .spread e => by
    rw [evaluate, evaluate]
    exact follows_evaluate h e
  | .spreadNamed e => by
    rw [evaluate, evaluate]
    exact follows_evaluate h e

theorem follows_evaluateAll (h : m.Follows m') : ∀ es : List Expr,
    Follows (evaluateAll m es) (evaluateAll m' es)
  | [] => by rw [evaluateAll, evaluateAll]; exact .refl _
  | e :: rest => by
    rw [evaluateAll, evaluateAll]
    exact (follows_evaluate h e).bind fun _ => (follows_evaluateAll h rest).bind fun _ => .refl _

theorem follows_evaluateChain (h : m.Follows m') : ∀ (es : List Expr) (v : Value)
    (ops : List Comparison),
    Follows (evaluateChain m v ops es) (evaluateChain m' v ops es)
  | [], v, ops => by
    simp only [evaluateChain]
    exact .refl _
  | e :: rest, v, [] => by
    simp only [evaluateChain]
    exact .refl _
  | e :: rest, v, op :: ops => by
    rw [evaluateChain, evaluateChain]
    exact (follows_evaluate h e).bind fun w => .after _ fun _ => .after _ fun _ =>
      .ite (follows_evaluateChain h rest w ops) (.refl _)

theorem follows_evaluateBoth (h : m.Follows m') : ∀ es : List Expr,
    Follows (evaluateBoth m es) (evaluateBoth m' es)
  | [] => by rw [evaluateBoth, evaluateBoth]; exact .refl _
  | e :: rest => by
    have he : Follows (evaluate m e) (evaluate m' e) := follows_evaluate h e
    have hrest : Follows (evaluateBoth m rest) (evaluateBoth m' rest) := follows_evaluateBoth h rest
    cases e with
    | named name e =>
      rw [evaluate, evaluate] at he
      rw [evaluateBoth, evaluateBoth]
      exact he.bind fun _ => hrest.bind fun _ => .refl _
    | spread e =>
      rw [evaluate, evaluate] at he
      rw [evaluateBoth, evaluateBoth]
      exact he.bind fun _ => .after _ fun _ => hrest.bind fun _ => .refl _
    | spreadNamed e =>
      rw [evaluate, evaluate] at he
      rw [evaluateBoth, evaluateBoth]
      exact .after _ fun _ => he.bind fun _ => .after _ fun _ => hrest.bind fun _ => .refl _
    | _ =>
      rw [evaluateBoth, evaluateBoth]
      · exact he.bind fun _ => hrest.bind fun _ => .refl _
      all_goals intros; simp_all

end

/-! ## Statements -/

mutual

/-- **A value for a target.** -/
theorem follows_unpack (h : m.Follows m') : ∀ (t : Target) (v : Value),
    Follows (unpack m t v) (unpack m' t v)
  | .name n, v => by rw [unpack, unpack]; exact .refl _
  | .field subject n, v => by
    rw [unpack, unpack]
    exact (follows_evaluate h subject).bind fun _ => .refl _
  | .each ts, v => by
    rw [unpack, unpack]
    refine .after _ fun st => ?_
    cases (st.resolve v).held? with
    | none => exact .refl _
    | some items => exact .ite (follows_unpackAll h ts items) (.refl _)

theorem follows_unpackAll (h : m.Follows m') : ∀ (ts : List Target) (vs : List Value),
    Follows (unpackAll m ts vs) (unpackAll m' ts vs)
  | [], vs => by simp only [unpackAll]; exact .refl _
  | t :: ts, [] => by simp only [unpackAll]; exact .refl _
  | t :: ts, v :: vs => by
    rw [unpackAll, unpackAll]
    exact (follows_unpack h t v).bind fun _ => follows_unpackAll h ts vs

end

/-- **The first template that there is**: all before it are looked up and there are none. -/
theorem firstTemplate_of_ok (h : m.Follows m') {ignoreMissing : Bool} {tried : Bool}
    {choices : List Value} {found : Option (List Char × Document)}
    (hm : firstTemplate m ignoreMissing tried choices = .ok found) :
    firstTemplate m' ignoreMissing tried choices = .ok found := by
  induction choices generalizing tried with
  | nil => exact hm
  | cons v rest ih =>
    unfold firstTemplate at hm ⊢
    cases hchars : v.chars? with
    | none => rw [hchars] at hm; cases hm
    | some name =>
      rw [hchars] at hm
      simp only at hm ⊢
      rcases h.load name with hsame | ⟨e, herror, hne⟩
      · rw [hsame]
        cases hload : m.load name with
        | ok t => rw [hload] at hm; exact hm
        | error e =>
          rw [hload] at hm
          cases e with
          | notFound => exact ih hm
          | _ => cases hm
      · rw [herror] at hm
        cases e with
        | notFound => exact absurd rfl hne
        | _ => cases hm

theorem follows_includeTemplate (h : m.Follows m') (names : Value) (ignoreMissing : Bool) :
    Follows (includeTemplate m names ignoreMissing) (includeTemplate m' names ignoreMissing) := by
  intro st r hm
  unfold includeTemplate at hm ⊢
  simp only at hm ⊢
  cases hfirst : firstTemplate m ignoreMissing false (((st.resolve names).held?).getD [names]) with
  | error e => rw [hfirst] at hm; cases hm
  | ok found =>
    rw [firstTemplate_of_ok h hfirst]
    rw [hfirst] at hm
    cases found with
    | none => exact hm
    | some found =>
      obtain ⟨name, t⟩ := found
      simp only at hm ⊢
      cases hsink : st.sink includeCost with
      | error e => rw [hsink] at hm; cases hm
      | ok inner =>
        rw [hsink] at hm
        simp only at hm ⊢
        split at hm
        · rename_i out hjump
          rw [h.jump _ _ _ hjump]
          exact hm
        · cases hm

theorem follows_load (h : m.Follows m') (name : List Char) :
    Follows (liftM (m.load name) : Eval Document) (liftM (m'.load name)) := by
  intro st r hm
  rcases h.load name with hsame | ⟨e, herror, -⟩
  · rw [hsame]
    exact hm
  · rw [herror] at hm
    cases hm

theorem follows_extendTemplate (h : m.Follows m') (name : Value) :
    Follows (extendTemplate m name) (extendTemplate m' name) := by
  unfold extendTemplate
  refine .after _ fun st => ?_
  cases st.parent with
  | some parent => exact .refl _
  | none =>
    cases name.chars? with
    | none => exact .refl _
    | some name => exact .ite (.refl _) ((follows_load h name).bind fun _ => .refl _)

theorem follows_applyFilters (h : m.Follows m') (filters : FilterChain) (v : Value) :
    Follows (applyFilters m filters v) (applyFilters m' filters v) :=
  Follows.foldlM (fun _ (_, args) => (follows_evaluateBoth h args).bind fun _ => .refl _) filters v

theorem follows_loopItems (h : m.Follows m') (target : Target) (test : Option Expr)
    (items : List Value) :
    Follows (loopItems m target test items) (loopItems m' target test items) := by
  cases test with
  | none => exact .refl _
  | some test =>
    exact .inScope _ (.filterM (fun item => (follows_unpack h target item).bind fun _ =>
      (follows_evaluate h test).bind fun _ => .refl _) items)

theorem follows_throughLoop (h : m.Follows m') (target : Target) (recursion : Option LoopBody)
    (items : List Value) {body body' : Eval Unit} (hbody : Follows body body') :
    Follows (throughLoop m target recursion items body)
      (throughLoop m' target recursion items body') := by
  unfold throughLoop
  exact .after _ fun st => .after _ fun _ => .inScope _ (.forM (fun (item, i) =>
    .after _ fun _ => (follows_unpack h target item).bind fun _ => hbody) _)

theorem follows_importing (h : m.Follows m') (source : Expr)
    (found : State → List Char → Value) :
    Follows (importing m source found) (importing m' source found) := by
  unfold importing
  exact .inScope _ ((Follows.captured ((follows_evaluate h source).bind fun _ =>
    follows_includeTemplate h _ _)).bind fun _ => .refl _)

mutual

/-- **A statement.** -/
theorem follows_runOne (h : m.Follows m') : ∀ s : Stmt, Follows (runOne m s) (runOne m' s)
  | .text chars => by rw [runOne, runOne]; exact .refl _
  | .print e => by
    rw [runOne, runOne]
    exact (follows_evaluate h e).bind fun _ => .refl _
  | .branch test yes no => by
    rw [runOne, runOne]
    exact (follows_evaluate h test).bind fun _ => .ite (follows_run h yes) (follows_run h no)
  | .loop target source test recursive body otherwise => by
    rw [runOne, runOne]
    exact (follows_evaluate h source).bind fun _ => .after _ fun _ => .after _ fun _ =>
      (follows_loopItems h target test _).bind fun items =>
        (follows_throughLoop h target _ items (follows_run h body)).bind fun _ =>
          .ite (follows_run h otherwise) (.refl _)
  | .assign target e => by
    rw [runOne, runOne]
    exact (follows_evaluate h e).bind fun v => follows_unpack h target v
  | .capture target filters body => by
    rw [runOne, runOne]
    exact (follows_run h body).captured.bind fun v =>
      (follows_applyFilters h filters v).bind fun w => follows_unpack h target w
  | .scope targets values body => by
    rw [runOne, runOne]
    exact .inScope _ ((Follows.forM (fun (t, e) =>
      (follows_evaluate h e).bind fun v => follows_unpack h t v) _).bind fun _ =>
        follows_run h body)
  | .block name => by
    rw [runOne, runOne]
    exact .after _ fun _ => .ite (h.jump _) (.refl _)
  | .extend e => by
    rw [runOne, runOne]
    exact (follows_evaluate h e).bind fun v => follows_extendTemplate h v
  | .include e ignoreMissing => by
    rw [runOne, runOne]
    exact (follows_evaluate h e).bind fun v => follows_includeTemplate h v ignoreMissing
  | .escaping on body => by
    rw [runOne, runOne]
    exact (follows_evaluate h on).bind fun v => .after _ fun _ => .after _ fun _ =>
      .after _ fun _ => (follows_run h body).bind fun _ => .refl _
  | .filtered filters body => by
    rw [runOne, runOne]
    exact (follows_run h body).captured.bind fun v =>
      (follows_applyFilters h filters v).bind fun _ => .refl _
  | .evaluate e => by
    rw [runOne, runOne]
    exact (follows_evaluate h e).bind fun _ => .refl _
  | .define name ps body => by rw [runOne, runOne]; exact .refl _
  | .callWith call ps body => by
    rw [runOne, runOne]
    exact .after _ fun st => .after _ fun _ =>
      (follows_evaluate h _).bind fun _ => .refl _
  | .importAll source target => by
    rw [runOne, runOne]
    exact (follows_importing h source _).bind fun v => follows_unpack h target v
  | .importSome source names => by
    rw [runOne, runOne]
    exact (follows_importing h source _).bind fun _ => .refl _

/-- **Statements in order.** -/
theorem follows_run (h : m.Follows m') : ∀ body : List Stmt, Follows (run m body) (run m' body)
  | [] => by rw [run, run]; exact .refl _
  | s :: rest => by
    rw [run, run]
    exact (follows_runOne h s).bind fun _ => follows_run h rest

end

/-! ## Other places -/

theorem follows_runTemplate (h : m.Follows m') (fuel : Nat) (t : Document) :
    Follows (runTemplate m fuel t) (runTemplate m' fuel t) := by
  induction fuel generalizing t with
  | zero => exact .refl _
  | succ fuel ih =>
    unfold runTemplate
    refine .after _ fun _ => .after _ fun _ => (follows_run h t.body).bind fun _ =>
      .after _ fun st => ?_
    cases st.parent with
    | none => exact .refl _
    | some parent => exact .after _ fun _ => ih parent

theorem follows_assignParameters (h : m.Follows m') (given : List (List Char × Value)) :
    ∀ defaults : List Expr,
      Follows (assignParameters m given defaults) (assignParameters m' given defaults) := by
  induction given with
  | nil => intro defaults; cases defaults <;> exact .refl _
  | cons first rest ih =>
    intro defaults
    cases defaults with
    | nil => exact .after _ fun _ => ih []
    | cons e defaults =>
      obtain ⟨name, v⟩ := first
      unfold assignParameters
      cases v.isUndefined with
      | true =>
        exact (follows_evaluate h e).bind fun _ => .after _ fun _ => ih defaults
      | false => exact .after _ fun _ => .after _ fun _ => ih defaults

theorem follows_runMacro (h : m.Follows m') (r : Routine) (a : Arguments) :
    Follows (runMacro m r a) (runMacro m' r a) := by
  unfold runMacro
  refine .after _ fun st => ?_
  cases st.macros[r.id]? with
  | none => exact .refl _
  | some found =>
    exact .after _ fun given => .after _ fun _ => .after _ fun _ =>
      (follows_assignParameters h _ _).bind fun _ =>
        (follows_run h found.body).bind fun _ => .refl _

theorem follows_runBlock (h : m.Follows m') (name : List Char) :
    Follows (runBlock m name) (runBlock m' name) := by
  unfold runBlock
  refine .after _ fun st => ?_
  cases st.blocks.lookup name with
  | none => exact .refl _
  | some stack =>
    exact .after _ fun _ => (Follows.inScope _ (follows_run h _)).bind fun _ => .refl _

theorem follows_runOverridden (h : m.Follows m') :
    Follows (runOverridden m) (runOverridden m') := by
  unfold runOverridden
  refine .after _ fun st => ?_
  cases st.current with
  | none => exact .refl _
  | some name =>
    simp only
    cases st.blocks.lookup name with
    | none => exact .refl _
    | some stack =>
      simp only
      cases stack.bodies[stack.depth + 1]? with
      | none => exact .refl _
      | some body =>
        refine .after _ fun _ => (Follows.inScope _ ?_).bind fun _ => .refl _
        intro inner r hm
        -- a failure within becomes another one, and stays a failure
        simp only at hm ⊢
        cases hrun : run m body inner with
        | error e => rw [hrun] at hm; cases hm
        | ok out =>
          rw [hrun] at hm
          rw [follows_run h body inner out hrun]
          exact hm

/-- **Every place.** The induction is on how deep places may lie within each other. -/
theorem follows_jump {load load' : List Char → Except TemplateError Document}
    (h : Loads load load') (fuel : Nat) :
    ∀ place, Follows (jump load fuel place) (jump load' fuel place) := by
  induction fuel with
  | zero => exact fun _ => .refl _
  | succ fuel ih =>
    have hm : Machine.Follows ⟨load, jump load fuel⟩ ⟨load', jump load' fuel⟩ := ⟨h, ih⟩
    intro place
    cases place with
    | block name => exact follows_runBlock hm name
    | overridden => exact follows_runOverridden hm
    | template t => exact follows_runTemplate hm _ t
    | routine r a => exact follows_runMacro hm r a
    | again body items =>
      exact (follows_throughLoop hm body.target (some body) items (follows_run hm body.body)).bind
        fun _ => .ite (follows_run hm body.otherwise) (.refl _)

/-- **A rendering that goes through** without some templates is the same with them. -/
theorem rendering_of_loads {load load' : List Char → Except TemplateError Document}
    (h : Loads load load') {name : List Char} {page : Scope} {r : Rendering}
    (hr : rendering load name page = .ok r) : rendering load' name page = .ok r := by
  unfold rendering at hr ⊢
  rcases h name with hsame | ⟨e, herror, -⟩
  · rw [hsame]
    cases hload : load name with
    | error e => rw [hload] at hr; cases hr
    | ok t =>
      rw [hload] at hr
      let st : State :=
        { page, frames := [{ backdrop := .page }], escaping := escapesIn name, loaded := [name] }
      change (jump load placeLimit (.template t) (st.addBlocks t) >>= fun x =>
        .ok (⟨x.2.reversed.reverse, x.2.loaded⟩ : Rendering)) = _ at hr
      change (jump load' placeLimit (.template t) (st.addBlocks t) >>= fun x =>
        .ok (⟨x.2.reversed.reverse, x.2.loaded⟩ : Rendering)) = _
      cases hjump : jump load placeLimit (.template t) (st.addBlocks t) with
      | error e => rw [hjump] at hr; cases hr
      | ok out => rw [follows_jump h placeLimit _ _ _ hjump, ← hr, hjump]
  · rw [herror] at hr
    cases hr

theorem render_of_loads {load load' : List Char → Except TemplateError Document}
    (h : Loads load load') {name : List Char} {page : Scope} {chars : List Char}
    (hr : render load name page = .ok chars) : render load' name page = .ok chars := by
  unfold render at hr ⊢
  cases hrendering : rendering load name page with
  | error e => rw [hrendering] at hr; cases hr
  | ok r =>
    rw [hrendering] at hr
    rw [rendering_of_loads h hrendering]
    exact hr

/-! ## Sources -/

/-- The templates of some names; nothing else can be read. -/
def Source.only (s : Source) (used : List Char → Bool) : Source := fun name =>
  if used name then s name else .error .invalidOperation

variable {s s' : Source} {used : List Char → Bool}

theorem only_of_used {name : List Char} (h : used name = true) : s.only used name = s name :=
  if_pos h

theorem load_only {name : List Char} (h : used name = true) :
    (s.only used).load name = s.load name := by
  unfold Source.load
  rw [only_of_used h]

theorem loads_only (h : ∀ name, used name = true → s' name = s name) :
    Loads (s.only used).load s'.load := by
  intro name
  cases hused : used name with
  | true =>
    left
    rw [load_only hused]
    unfold Source.load
    rw [h name hused]
  | false =>
    have herror : s.only used name = .error .invalidOperation := if_neg (by simp [hused])
    refine .inr ⟨.invalidOperation, ?_, by decide⟩
    unfold Source.load
    rw [herror]
    rfl

/-- **The page of an example** that only uses some names is the same with anything under the
others. -/
theorem renderExample_of_unused (h : ∀ name, used name = true → s' name = s name)
    {page : ExamplePage} {chars : List Char}
    (hr : renderExample (s.only used) page = .ok chars) : renderExample s' page = .ok chars :=
  render_of_loads (loads_only h) hr

/-- **The index** that only uses some names is the same with anything under the others. -/
theorem renderIndex_of_unused (h : ∀ name, used name = true → s' name = s name)
    {siteTitle : List Char} {examples : List IndexEntry} {chars : List Char}
    (hr : renderIndex (s.only used) siteTitle examples = .ok chars) :
    renderIndex s' siteTitle examples = .ok chars :=
  render_of_loads (loads_only h) hr

end LiterateSite.Template
