import Mathlib.Data.List.Nodup
import LiterateSite.Proofs.Site.Places

/-!
# The links between examples

* `getElem?_entriesOf`: an example stands between its neighbours in the list of ids.
* `entryNamed?`, `follow`: the example that a link names, and links that are followed.
* `next_step`, `previous_step`: **a link leads to the neighbour in the list**, if no id is there
  twice.
* `follow_path`: what holds of one link holds of any number of them.
* `follow_next`, `follow_previous`: **the links lead through all examples**, in their order and
  back.
-/

namespace LiterateSite.Site

variable {layout : Layout} {ids : List String} {id : String} {entries path : List Entry}
  {e first last : Entry} {link : Entry → Option String} {i : Nat}

/-! ## Places in the list -/

theorem getElem?_entriesFrom (ids : List String) : ∀ (previous : Option String) (i : Nat),
    (entriesFrom layout previous ids)[i]? =
      ids[i]?.map fun id =>
        entryOf layout (if i = 0 then previous else ids[i - 1]?) id ids[i + 1]? := by
  induction ids with
  | nil => intro previous i; rfl
  | cons id rest ih =>
    intro previous i
    cases i with
    | zero =>
      rw [entriesFrom, List.getElem?_cons_zero, List.getElem?_cons_zero, List.getElem?_cons_succ,
        List.head?_eq_getElem?]
      rfl
    | succ i =>
      rw [entriesFrom, List.getElem?_cons_succ, List.getElem?_cons_succ, List.getElem?_cons_succ,
        ih]
      -- the first of the others has the id in front of it
      cases i with
      | zero => rfl
      | succ i => rfl

/-- **An example stands between its neighbours** in the list of ids. -/
theorem getElem?_entriesOf (layout : Layout) (ids : List String) (i : Nat) :
    (entriesOf layout ids)[i]? =
      ids[i]?.map fun id => entryOf layout (if i = 0 then none else ids[i - 1]?) id ids[i + 1]? :=
  getElem?_entriesFrom ids none i

theorem neighbours_at (h : (entriesOf layout ids)[i]? = some e) :
    e.previous = (if i = 0 then none else ids[i - 1]?) ∧ e.next = ids[i + 1]? := by
  rw [getElem?_entriesOf, Option.map_eq_some_iff] at h
  obtain ⟨id, -, rfl⟩ := h
  exact ⟨rfl, rfl⟩

/-! ## Links that are followed -/

/-- The example of an id. -/
def entryNamed? (entries : List Entry) (id : String) : Option Entry :=
  entries.find? fun e => e.id == id

/-- The example that some number of links leads to. -/
def follow (entries : List Entry) (link : Entry → Option String) : Nat → Entry → Option Entry
  | 0, e => some e
  | n + 1, e => ((link e).bind (entryNamed? entries)).bind (follow entries link n)

theorem entryNamed?_of_mem (hn : (entries.map Entry.id).Nodup) (h : e ∈ entries) :
    entryNamed? entries e.id = some e := by
  induction entries with
  | nil => exact absurd h List.not_mem_nil
  | cons x rest ih =>
    rw [List.map_cons, List.nodup_cons] at hn
    rcases List.mem_cons.1 h with rfl | hmem
    · exact List.find?_cons_of_pos (beq_self_eq_true e.id)
    · have hne : (x.id == e.id) = false := by
        refine beq_eq_false_iff_ne.2 fun hid => hn.1 ?_
        rw [hid]
        exact List.mem_map_of_mem hmem
      unfold entryNamed?
      rw [List.find?_cons, hne]
      exact ih hn.2 hmem

/-- An id leads to the place that it has in the list. -/
theorem bind_entryNamed? (hn : ids.Nodup) (i : Nat) :
    ids[i]?.bind (entryNamed? (entriesOf layout ids)) = (entriesOf layout ids)[i]? := by
  have hids : (entriesOf layout ids)[i]?.map Entry.id = ids[i]? := by
    rw [← List.getElem?_map, Layout.ids_entriesOf]
  cases he : (entriesOf layout ids)[i]? with
  | none =>
    rw [he] at hids
    rw [← hids]
    rfl
  | some e =>
    rw [he] at hids
    rw [← hids]
    refine entryNamed?_of_mem ?_ (List.mem_of_getElem? he)
    rwa [Layout.ids_entriesOf]

/-- **The link to the next example** leads to the next place. -/
theorem next_step (hn : ids.Nodup) (h : (entriesOf layout ids)[i]? = some e) :
    e.next.bind (entryNamed? (entriesOf layout ids)) = (entriesOf layout ids)[i + 1]? := by
  rw [(neighbours_at h).2, bind_entryNamed? hn]

/-- **The link to the previous example** leads to the place before, if there is one. -/
theorem previous_step (hn : ids.Nodup) (h : (entriesOf layout ids)[i]? = some e) :
    e.previous.bind (entryNamed? (entriesOf layout ids)) =
      if i = 0 then none else (entriesOf layout ids)[i - 1]? := by
  rw [(neighbours_at h).1]
  split
  · rfl
  · rw [bind_entryNamed? hn]

/-- **Following links along a path**: if each link leads to the next place of a path, any number of
them leads that many places on. -/
theorem follow_path
    (hstep : ∀ i e, path[i]? = some e → (link e).bind (entryNamed? entries) = path[i + 1]?) :
    ∀ (n i : Nat) (e : Entry), path[i]? = some e → follow entries link n e = path[i + n]? := by
  intro n
  induction n with
  | zero => intro i e he; exact he.symm
  | succ n ih =>
    intro i e he
    rw [follow, hstep i e he]
    cases hnext : path[i + 1]? with
    | none =>
      -- the path has ended
      have hlen := List.getElem?_eq_none_iff.1 hnext
      exact (List.getElem?_eq_none_iff.2 (by omega)).symm
    | some e' =>
      rw [Option.bind_some, ih (i + 1) e' hnext]
      congr 1
      omega

/-- **From the first example to the last one.** -/
theorem follow_next (hn : ids.Nodup) (hf : (entriesOf layout ids).head? = some first) (n : Nat) :
    follow (entriesOf layout ids) Entry.next n first = (entriesOf layout ids)[n]? := by
  rw [List.head?_eq_getElem?] at hf
  have h := follow_path (fun _ _ he => next_step hn he) n 0 first hf
  rwa [Nat.zero_add] at h

/-- **From the last example to the first one.** -/
theorem follow_previous (hn : ids.Nodup) (hl : (entriesOf layout ids).getLast? = some last)
    (n : Nat) :
    follow (entriesOf layout ids) Entry.previous n last = (entriesOf layout ids).reverse[n]? := by
  rw [List.getLast?_eq_head?_reverse, List.head?_eq_getElem?] at hl
  -- a place of the list in reverse is a place of the list, counted from its end
  have hstep : ∀ i e, (entriesOf layout ids).reverse[i]? = some e →
      e.previous.bind (entryNamed? (entriesOf layout ids)) =
        (entriesOf layout ids).reverse[i + 1]? := by
    intro i e he
    have hi := (List.getElem?_eq_some_iff.1 he).1
    rw [List.length_reverse] at hi
    rw [List.getElem?_reverse hi] at he
    rw [previous_step hn he]
    split
    · next h0 =>
      refine (List.getElem?_eq_none_iff.2 ?_).symm
      rw [List.length_reverse]
      omega
    · next h0 =>
      rw [List.getElem?_reverse (by omega)]
      congr 1
  have h := follow_path hstep n 0 last hl
  rwa [Nat.zero_add] at h

end LiterateSite.Site
