import LiterateSite.Template.Page

/-!
# What templates write

Statements that assign nothing, and loops over lists.

* `State.Sees`: the variables of a rendering that writes, and its depth.
* `Gives`: **the value of an expression**, wherever the variables are the same.
* `Writes`: **the text that steps write**, wherever the variables are the same. They change nothing
  else, but for the number of loops.
* `writes_text`, `writes_print`, `writes_branch`, `writes_loop`, `writes_cons`: one statement after
  the other.
-/

namespace LiterateSite.Template

open Eval

/-- The values of variables. -/
abbrev Variables := List Char → Option Value

/-- The variables within a loop: the item and the place are in front of the others. -/
def Variables.within (vars : Variables) (name : List Char) (item place : Value) : Variables :=
  fun n => if n = name then some item else if n = State.loopName then some place else vars n

/-- The state after text has been written and loops have been gone through. -/
def State.wrote (st : State) (chars : List Char) (loops : Nat) : State :=
  { st with reversed := chars.reverse ++ st.reversed, loops }

/-- **A rendering that writes**, with markup. It has these variables and is at this depth. -/
structure State.Sees (st : State) (vars : Variables) (depth : Nat) : Prop where
  bindings : ∀ n, st.lookup n = vars n
  loud : st.silent = false
  escaping : st.escaping = true
  depth : st.depth = depth

/-- **The value of an expression**, wherever the variables are these. -/
def Gives (m : Machine) (vars : Variables) (depth : Nat) (e : Expr) (v : Value) : Prop :=
  ∀ st : State, st.Sees vars depth → evaluate m e st = .ok (v, st)

/-- **The text that steps write**, wherever the variables are these. -/
def Writes (vars : Variables) (depth : Nat) (steps : Eval Unit) (chars : List Char) : Prop :=
  ∀ st : State, st.Sees vars depth → ∃ n, steps st = .ok ((), st.wrote chars n)

variable {m : Machine} {vars : Variables} {depth : Nat} {e : Expr} {v w : Value} {name : List Char}
  {chars more : List Char} {st : State} {steps : Eval Unit} {f : Frame} {items : List Value}

/-! ## Steps -/

section steps

variable {α β : Type} {x : Eval α} {g : α → Eval β} {a : α} {st' : State}

theorem Eval.bind_ok (h : x st = .ok (a, st')) : (x >>= g) st = g a st' := by
  show (x st >>= fun p => g p.1 p.2) = _
  rw [h]
  rfl

theorem Eval.get_run : (get : Eval State) st = .ok (st, st) := rfl

theorem Eval.set_run : (set st' : Eval Unit) st = .ok ((), st') := rfl

theorem Eval.modify_run (k : State → State) : (modify k : Eval Unit) st = .ok ((), k st) := rfl

theorem Eval.lift_run {r : Except TemplateError α} (h : r = .ok a) :
    (liftM r : Eval α) st = .ok (a, st) := by
  subst h
  rfl

/-- Steps in a scope within. -/
theorem Eval.inScope_ok (hd : ¬ st.depth > State.scopeLimit)
    (h : x { st with frames := f :: st.frames } = .ok (a, st')) :
    inScope f x st = .ok (a, st'.pop) := by
  have hpush : (update (·.push f)) st = .ok ((), { st with frames := f :: st.frames }) := by
    show (st.push f >>= _) = _
    unfold State.push
    rw [if_neg hd]
    rfl
  unfold inScope
  rw [bind_ok hpush, bind_ok h]
  rfl

end steps

/-! ## States -/

namespace State

theorem wrote_wrote (n k : Nat) : (st.wrote chars n).wrote more k = st.wrote (chars ++ more) k := by
  unfold wrote
  rw [List.reverse_append, List.append_assoc]

theorem write_eq (h : st.silent = false) : st.write chars = st.wrote chars st.loops := by
  unfold write wrote
  rw [h, if_neg Bool.false_ne_true, List.reverseAux_eq]

/-- A variable, seen from a scope within. -/
theorem lookup_push (f : Frame) (n : List Char) :
    ({ st with frames := f :: st.frames } : State).lookup n =
      match st.lookupIn n f with
      | some v => some v
      | none => st.lookup n := by
  have hsame : ({ st with frames := f :: st.frames } : State).lookupIn n = st.lookupIn n := rfl
  unfold lookup
  rw [hsame, List.findSome?_cons]
  cases st.lookupIn n f <;> rfl

theorem Sees.wrote (h : st.Sees vars depth) (chars : List Char) (n : Nat) :
    (st.wrote chars n).Sees vars depth :=
  ⟨h.bindings, h.loud, h.escaping, h.depth⟩

/-- A scope within that has no variables. -/
theorem Sees.push (h : st.Sees vars depth) :
    ({ st with frames := {} :: st.frames } : State).Sees vars (depth + 1) := by
  refine ⟨fun n => ?_, h.loud, h.escaping, ?_⟩
  · rw [lookup_push, ← h.bindings]
    rfl
  · rw [← h.depth]
    rfl

end State

/-! ## Expressions -/

theorem gives_var (h : vars name = some v) : Gives m vars depth (.var name) v := by
  intro st hst
  unfold evaluate
  rw [bind_ok get_run, hst.bindings, h]
  rfl

/-- **A field** of a record. -/
theorem gives_attr {entries : Entries} (h : Gives m vars depth e (.map .plain entries))
    (hv : (Value.map .plain entries).attribute? name = some v) :
    Gives m vars depth (.attr e name) v := by
  intro st hst
  unfold evaluate
  rw [bind_ok get_run, bind_ok (h st hst)]
  show foundIn _ ((Value.map .plain entries).attribute? name) st = _
  rw [hv]
  rfl

/-- Text that is taken for markup. -/
theorem gives_safe (h : Gives m vars depth e (.text chars)) :
    Gives m vars depth (.filter "safe".toList e []) (.safe chars) := by
  intro st hst
  have hsafe : ∀ escaping, applyFilter escaping "safe".toList (.text chars) [] =
      .ok (.safe chars) := fun _ => rfl
  unfold evaluate
  rw [bind_ok (h st hst)]
  exact lift_run (hsafe st.escaping)

/-- A comparison of two texts. -/
theorem gives_ne {e' : Expr} (h : Gives m vars depth e (.text chars))
    (h' : Gives m vars depth e' (.text more)) :
    Gives m vars depth (.compare e [.ne] [e']) (.bool (chars != more)) := by
  intro st hst
  have hchain : evaluateChain m (.text chars) [.ne] [e'] st = .ok (chars != more, st) := by
    unfold evaluateChain
    rw [bind_ok (h' st hst), bind_ok get_run]
    have hne : compareValues .ne (st.resolve (.text chars)) (st.resolve (.text more)) =
        .ok (chars != more) := rfl
    rw [bind_ok (lift_run hne)]
    cases chars != more with
    | true =>
      unfold evaluateChain
      rfl
    | false => rfl
  unfold evaluate
  rw [bind_ok (h st hst), bind_ok hchain]
  rfl

/-! ## Statements -/

theorem writes_nil : Writes vars depth (run m []) [] := fun st _ => ⟨st.loops, rfl⟩

/-- **Statements one after the other.** -/
theorem writes_cons {s : Stmt} {rest : List Stmt} (h : Writes vars depth (runOne m s) chars)
    (hrest : Writes vars depth (run m rest) more) :
    Writes vars depth (run m (s :: rest)) (chars ++ more) := by
  intro st hst
  obtain ⟨n, hn⟩ := h st hst
  obtain ⟨k, hk⟩ := hrest _ (hst.wrote chars n)
  refine ⟨k, ?_⟩
  unfold run
  rw [bind_ok hn, hk, State.wrote_wrote]

theorem writes_last {s : Stmt} (h : Writes vars depth (runOne m s) chars) :
    Writes vars depth (run m [s]) chars := by
  have hrun := writes_cons h writes_nil
  rwa [List.append_nil] at hrun

/-- Statements that are run before others. -/
theorem run_append {ss : List Stmt} {st' : State} (ts : List Stmt)
    (h : run m ss st = .ok ((), st')) : run m (ss ++ ts) st = run m ts st' := by
  induction ss generalizing st with
  | nil =>
    cases h
    rfl
  | cons s rest ih =>
    unfold run at h
    cases hs : runOne m s st with
    | error err =>
      change runOne m s st >>= _ = _ at h
      rw [hs] at h
      cases h
    | ok x =>
      obtain ⟨⟨⟩, st₁⟩ := x
      rw [bind_ok hs] at h
      rw [List.cons_append, run, bind_ok hs, ih h]

theorem writes_text (chars : List Char) : Writes vars depth (runOne m (.text chars)) chars := by
  intro st hst
  refine ⟨st.loops, ?_⟩
  unfold runOne
  rw [modify_run, State.write_eq hst.loud]

/-- **A value is written as markup.** -/
theorem writes_print (h : Gives m vars depth e v) (hv : ∀ st : State, st.resolve v = v) :
    Writes vars depth (runOne m (.print e)) v.escaped := by
  intro st hst
  refine ⟨st.loops, ?_⟩
  unfold runOne
  rw [bind_ok (h st hst), modify_run, hv st, ← State.write_eq hst.loud]
  unfold State.print Value.written
  rw [hst.escaping, if_pos rfl]

theorem writes_branch {test : Expr} {yes no : List Stmt} (h : Gives m vars depth test v)
    (hrun : Writes vars depth (run m (if v.truth then yes else no)) chars) :
    Writes vars depth (runOne m (.branch test yes no)) chars := by
  intro st hst
  obtain ⟨n, hn⟩ := hrun st hst
  refine ⟨n, ?_⟩
  unfold runOne
  rw [bind_ok (h st hst), ← hn]
  split <;> rfl

/-! ## Loops -/

/-- The scope of a loop over items that go by a name. Nothing else is assigned there. -/
structure Frame.Loops (f : Frame) (name : List Char) : Prop where
  locals : f.locals.filter (fun x => x.1 != name) = []
  loop : ∃ l, f.loop = some l ∧ l.isVisible = true
  backdrop : f.backdrop = .nothing
  closure : f.closure = none

/-- The scope of a loop where it stands at an item. -/
def Frame.at (f : Frame) (name : List Char) (item place : Value) : Frame :=
  { f with locals := [(name, item)], loop := f.loop.map fun l => { l with place } }

theorem Frame.Loops.at (h : f.Loops name) (item place : Value) :
    (f.at name item place).Loops name := by
  obtain ⟨l, hl, hv⟩ := h.loop
  refine ⟨?_, ⟨{ l with place }, ?_, hv⟩, h.backdrop, h.closure⟩
  · show List.filter _ [(name, item)] = []
    simp
  · show f.loop.map _ = _
    rw [hl]
    rfl

/-- **The variables at an item** of a loop. -/
theorem State.Sees.at (h : st.Sees vars depth) (hf : f.Loops name) (item place : Value) :
    ({ st with frames := f.at name item place :: st.frames } : State).Sees
      (vars.within name item place) (depth + 1) := by
  obtain ⟨l, hl, hv⟩ := hf.loop
  refine ⟨fun n => ?_, h.loud, h.escaping, ?_⟩
  · rw [lookup_push]
    unfold Variables.within lookupIn Frame.at
    rw [hl, hf.backdrop]
    by_cases hn : n = name
    · rw [hn, if_pos rfl, List.lookup_cons_self]
    · rw [List.lookup_cons, beq_eq_false_iff_ne.2 hn, if_neg hn]
      by_cases hloop : n = loopName
      · rw [if_pos hloop]
        simp [hv, hloop, Option.filter_some]
      · rw [if_neg hloop, ← h.bindings]
        simp [hloop, behind, Option.filter_some]
  · rw [← h.depth]
    show st.sunk + (st.frames.length + 1) = _
    rfl

/-- What a loop does with an item. -/
def itemSteps (m : Machine) (name : List Char) (body : Eval Unit) (place : Nat → Value)
    (x : Value × Nat) : Eval Unit := do
  modify (·.standAt (place x.2))
  unpack m (.name name) x.1
  body

/-- **One item of a loop**: the loop stands at it, it gets its name, and the body is run. -/
theorem itemSteps_run {body : Eval Unit} {place : Nat → Value} {x : Value × Nat}
    (h : st.Sees vars depth) (hf : f.Loops name)
    (hbody : Writes (vars.within name x.1 (place x.2)) (depth + 1) body chars) : ∃ f' n,
      f'.Loops name ∧ itemSteps m name body place x { st with frames := f :: st.frames } =
        .ok ((), { st.wrote chars n with frames := f' :: st.frames }) := by
  obtain ⟨n, hn⟩ := hbody _ (h.at hf x.1 (place x.2))
  refine ⟨f.at name x.1 (place x.2), n, hf.at _ _, ?_⟩
  have hassign : (({ st with frames := f :: st.frames } : State).standAt (place x.2)).assign name
      x.1 = { st with frames := f.at name x.1 (place x.2) :: st.frames } := by
    unfold State.standAt State.assign State.bind Frame.at
    simp only [hf.closure]
    rw [hf.locals]
  unfold itemSteps
  rw [bind_ok (modify_run _)]
  unfold unpack
  rw [bind_ok (modify_run _), hassign, hn]
  rfl

section items

variable {α : Type} {xs : List α} {g : α → Value} {c : α → List Char}

/-- **The items of a loop**, one after the other. -/
theorem forM_itemSteps {body : Eval Unit} {place : Nat → Value} (xs : List (α × Nat)) :
    ∀ {st : State} {f : Frame}, st.Sees vars depth → f.Loops name →
      (∀ x ∈ xs, ∀ place, Writes (vars.within name (g x.1) place) (depth + 1) body (c x.1)) →
        ∃ f' n, (xs.map (Prod.map g id)).forM (itemSteps m name body place)
          { st with frames := f :: st.frames } =
            .ok ((), { st.wrote (xs.flatMap fun x => c x.1) n with
              frames := f' :: st.frames }) := by
  induction xs with
  | nil => exact fun _ _ _ => ⟨_, _, rfl⟩
  | cons x rest ih =>
    intro st f h hf hbody
    obtain ⟨f₁, n, hf₁, hx⟩ := itemSteps_run (m := m) (x := (g x.1, x.2)) h hf
      (hbody x List.mem_cons_self _)
    obtain ⟨f', k, hrest⟩ := ih (h.wrote (c x.1) n) hf₁
      fun y hy => hbody y (List.mem_cons_of_mem _ hy)
    refine ⟨f', k, (bind_ok hx).trans (hrest.trans ?_)⟩
    rw [State.wrote_wrote, List.flatMap_cons]
    rfl

/-- A loop goes through its items in a scope of its own. -/
theorem throughLoop_eq (m : Machine) (name : List Char) (items : List Value) (body : Eval Unit)
    (st : State) : ∃ frame place, frame.isVisible = true ∧
      throughLoop m (.name name) none items body st =
        inScope { loop := some frame } (items.zipIdx.forM (itemSteps m name body place))
          { st with loops := st.loops + 1 } := by
  let place := fun i => Value.loop
    { id := st.loops, index := i, length := items.toArray.size, depth := st.loopDepth }
    (if i == 0 then .undefined else (items.toArray[i - 1]?).getD .undefined)
    ((items.toArray[i + 1]?).getD .undefined)
  refine ⟨⟨place 0, true, st.loopDepth, none⟩, place, rfl, ?_⟩
  rfl

/-- **Going through the items** of a loop. -/
theorem writes_throughLoop {body : Eval Unit} (hd : ¬ depth > State.scopeLimit)
    (hbody : ∀ x ∈ xs, ∀ place,
      Writes (vars.within name (g x) place) (depth + 1) body (c x)) :
    Writes vars depth (throughLoop m (.name name) none (xs.map g) body) (xs.flatMap c) := by
  intro st hst
  have hcount : ({ st with loops := st.loops + 1 } : State).Sees vars depth :=
    ⟨hst.bindings, hst.loud, hst.escaping, hst.depth⟩
  obtain ⟨frame, place, hvisible, hloop⟩ := throughLoop_eq m name (xs.map g) body st
  have hf : Frame.Loops { loop := some frame } name := ⟨rfl, ⟨frame, rfl, hvisible⟩, rfl, rfl⟩
  obtain ⟨f', n, hn⟩ := forM_itemSteps (m := m) (c := c) xs.zipIdx hcount hf
    fun x hx place => hbody x.1 (List.fst_mem_of_mem_zipIdx hx) place
  rw [← List.zipIdx_map] at hn
  refine ⟨n, hloop.trans ((inScope_ok (hcount.depth ▸ hd) hn).trans ?_)⟩
  have hitems : (xs.zipIdx.flatMap fun x => c x.1) = xs.flatMap c := by
    rw [← List.flatMap_map, List.zipIdx_map_fst]
  rw [hitems]
  rfl

/-- **A loop over a list** writes what its body writes for each item. -/
theorem writes_loop {source : Expr} {body : List Stmt} (hd : ¬ depth > State.scopeLimit)
    (h : Gives m vars depth source (.stored (xs.map g)))
    (hbody : ∀ x ∈ xs, ∀ place,
      Writes (vars.within name (g x) place) (depth + 1) (run m body) (c x)) :
    Writes vars depth (runOne m (.loop (.name name) source none false body []))
      (xs.flatMap c) := by
  intro st hst
  obtain ⟨n, hn⟩ := writes_throughLoop (m := m) hd hbody st hst
  have hitems : (st.resolve (.stored (xs.map g))).asItems = .ok (xs.map g) := rfl
  have hall : loopItems m (.name name) none (xs.map g) st = .ok (xs.map g, st) := rfl
  refine ⟨n, ?_⟩
  unfold runOne
  rw [bind_ok (h st hst), bind_ok get_run, bind_ok (lift_run hitems), bind_ok hall]
  refine (bind_ok hn).trans ?_
  split <;> rfl

end items

end LiterateSite.Template
