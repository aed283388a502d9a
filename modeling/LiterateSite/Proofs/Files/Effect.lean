import LiterateSite.Proofs.Files.Shape

/-!
# What writing and removing a file change

* `Tree.Sets`: a tree after the file at the end of a path has got a content, or none. All else,
  the shape of the tree in particular, is as it was.
* `sets_write`, `sets_unlink`: **writing and removing do that, and nothing else.**
* `Tree.Parted`, `Sets.content?_of_parted`: paths that lead to different places, and the content
  at the end of one when the other one is changed.
* `Sets.content?_of_some`: no other file is lost by writing one.
-/

namespace LiterateSite.Files.Tree

variable {t t' : Tree} {p q : Path} {l : Location}

/-- The paths lead to different places. -/
def Parted (t : Tree) (p q : Path) : Prop := ∀ l, t.place? p = some l → t.place? q ≠ some l

instance (t : Tree) (p q : Path) : Decidable (t.Parted p q) :=
  inferInstanceAs (Decidable (∀ l ∈ t.place? p, t.place? q ≠ some l))

theorem Parted.symm (h : t.Parted p q) : t.Parted q p := fun l hq hp => h l hp hq

theorem SameShape.parted {u : Tree} (h : SameShape t u) (hp : t.Parted p q) : u.Parted p q := by
  intro l h1 h2
  rw [← h.place?_eq] at h1 h2
  exact hp l h1 h2

/-- `t'` is the tree with `content` at the end of the path. -/
structure Sets (t : Tree) (p : Path) (content : Option (List UInt8)) (t' : Tree) : Prop where
  shape : SameShape t t'
  here : t'.content? p = content
  elsewhere : ∀ l, t.place? p ≠ some l → t'.get? l = t.get? l
  names : ∀ root, (∀ n, t.place? p ≠ some (n :: root)) → t'.names root = t.names root

/-! ## One place -/

theorem get?_insert_self (hl : l ≠ []) (e : Entry) : (t.insert l e).get? l = some e := by
  rw [get?_insert t hl, if_pos rfl]

theorem get?_insert_of_ne (hl : l ≠ []) (e : Entry) {k : Location} (hk : k ≠ l) :
    (t.insert l e).get? k = t.get? k := by
  rw [get?_insert t hl, if_neg hk]

theorem get?_erase_of_ne (hl : l ≠ []) {k : Location} (hk : k ≠ l) :
    (t.erase l).get? k = t.get? k := by
  rw [get?_erase t hl, if_neg hk]

theorem sameShape_insert (h : t.shapeAt l = none) (content : List UInt8) :
    SameShape t (t.insert l (.file content)) := by
  refine ⟨rfl, fun k => ?_⟩
  by_cases hk : k = l
  · subst hk
    rw [h]
    unfold shapeAt
    rw [get?_insert_self (ne_nil_of_shapeAt h)]
  · unfold shapeAt
    rw [get?_insert_of_ne (ne_nil_of_shapeAt h) _ hk]

theorem sameShape_erase (h : t.shapeAt l = none) : SameShape t (t.erase l) := by
  refine ⟨rfl, fun k => ?_⟩
  by_cases hk : k = l
  · subst hk
    rw [h]
    unfold shapeAt
    rw [get?_erase t (ne_nil_of_shapeAt h), if_pos rfl]
  · unfold shapeAt
    rw [get?_erase_of_ne (ne_nil_of_shapeAt h) hk]

theorem childName?_eq_none {root : Location} (h : ∀ n, l ≠ n :: root) :
    childName? root l = none := by
  cases l with
  | nil => rfl
  | cons n outer =>
    unfold childName?
    refine if_neg fun ho => h n ?_
    rw [beq_iff_eq.1 ho]

theorem names_insert {root : Location} (h : ∀ n, l ≠ n :: root) (e : Entry) :
    (t.insert l e).names root = t.names root := by
  unfold names insert
  have hput : ∀ es : List (Location × Entry),
      (put l e es).filterMap (fun x => childName? root x.1) =
        es.filterMap fun x => childName? root x.1 := by
    intro es
    induction es with
    | nil => simp [put, childName?_eq_none h]
    | cons x rest ih =>
      -- an entry that is replaced keeps its place among the others
      obtain ⟨k, old⟩ := x
      unfold put
      by_cases hk : (k == l) = true
      · rw [if_pos hk]; rfl
      · rw [if_neg hk, List.filterMap_cons, List.filterMap_cons, ih]
  exact hput t.entries

theorem names_erase {root : Location} (h : ∀ n, l ≠ n :: root) :
    (t.erase l).names root = t.names root := by
  unfold names erase
  have hfilter : ∀ es : List (Location × Entry),
      (es.filter fun x => x.1 != l).filterMap (fun x => childName? root x.1) =
        es.filterMap fun x => childName? root x.1 := by
    intro es
    induction es with
    | nil => rfl
    | cons x rest ih =>
      rw [List.filterMap_cons, ← ih]
      by_cases hx : x.1 = l
      · rw [List.filter_cons_of_neg (by simp [hx]), hx, childName?_eq_none h]
      · rw [List.filter_cons_of_pos (by simp [hx]), List.filterMap_cons]
  exact hfilter t.entries

/-! ## The end of a path -/

theorem sets_insert (hp : t.Plain p) (hl : t.place? p = some l) (content : List UInt8) :
    t.Sets p (some content) (t.insert l (.file content)) := by
  have hs := hp.shapeAt_place hl
  have hn := ne_nil_of_shapeAt hs
  have hshape := sameShape_insert hs content
  refine ⟨hshape, ?_, ?_, ?_⟩
  · rw [content?_of_place (hshape.place?_eq p _ ▸ hl), fileAt?_eq_some]
    exact get?_insert_self hn _
  · intro k hk
    exact get?_insert_of_ne hn _ fun h => hk (h ▸ hl)
  · intro root hroot
    exact names_insert (fun n h => hroot n (h ▸ hl)) _

theorem sets_erase (hp : t.Plain p) (hl : t.place? p = some l) : t.Sets p none (t.erase l) := by
  have hs := hp.shapeAt_place hl
  have hn := ne_nil_of_shapeAt hs
  have hshape := sameShape_erase hs
  refine ⟨hshape, ?_, ?_, ?_⟩
  · rw [content?_of_place (hshape.place?_eq p _ ▸ hl)]
    unfold fileAt?
    rw [get?_erase t hn, if_pos rfl]
  · intro k hk
    exact get?_erase_of_ne hn fun h => hk (h ▸ hl)
  · intro root hroot
    exact names_erase fun n h => hroot n (h ▸ hl)

theorem sets_self (h : t.content? p = none) : t.Sets p none t :=
  ⟨SameShape.refl t, h, fun _ _ => rfl, fun _ _ => rfl⟩

/-- **Writing** gives the end of the path a content. -/
theorem sets_write (hp : t.Plain p) {content : List UInt8} (h : t.write p content = .ok t') :
    t.Sets p (some content) t' := by
  unfold write at h
  cases hr : t.resolve p with
  | error e => rw [hr] at h; simp at h
  | ok l =>
    have hl : t.place? p = some l := toOption_eq_some.2 hr
    rw [hr] at h
    -- a file that is there is replaced
    have hins : t' = t.insert l (.file content) := by
      rcases shapeAt_eq_none (hp.shapeAt_place hl) with hg | ⟨old, hg⟩
      · simpa [hg] using h.symm
      · simpa [hg] using h.symm
    rw [hins]
    exact sets_insert hp hl content

/-- A plain path can be written to exactly if it leads somewhere. -/
theorem write_ok_iff (hp : t.Plain p) (content : List UInt8) :
    (∃ t', t.write p content = .ok t') ↔ ∃ l, t.place? p = some l := by
  unfold write place?
  cases hr : t.resolve p with
  | error e => simp [Except.toOption]
  | ok l =>
    have hl : t.place? p = some l := toOption_eq_some.2 hr
    rcases shapeAt_eq_none (hp.shapeAt_place hl) with hg | ⟨old, hg⟩
    · simp [Except.toOption, hg]
    · simp [Except.toOption, hg]

/-- **Removing** leaves the end of the path without content. -/
theorem sets_unlink (hp : t.Plain p) (h : t.unlink p = .ok t') : t.Sets p none t' := by
  unfold unlink at h
  rw [← hp.resolve_eq] at h
  cases hr : t.resolve p with
  | error e => rw [hr] at h; simp at h
  | ok l =>
    have hl : t.place? p = some l := toOption_eq_some.2 hr
    rw [hr] at h
    rcases shapeAt_eq_none (hp.shapeAt_place hl) with hg | ⟨old, hg⟩
    · simp [hg] at h
    · have he : t' = t.erase l := by simpa [hg] using h.symm
      rw [he]
      exact sets_erase hp hl

/-- What cannot be removed since it is not there has no content. -/
theorem content?_of_unlink_notFound (hp : t.Plain p) (h : t.unlink p = .error .notFound) :
    t.content? p = none := by
  unfold unlink at h
  rw [← hp.resolve_eq] at h
  rw [content?_eq]
  cases hr : t.resolve p with
  | error e => unfold place?; rw [hr]; rfl
  | ok l =>
    have hl : t.place? p = some l := toOption_eq_some.2 hr
    rw [hr] at h
    rw [hl, Option.bind_some]
    rcases shapeAt_eq_none (hp.shapeAt_place hl) with hg | ⟨old, hg⟩
    · unfold fileAt?; rw [hg]
    · simp [hg] at h

/-- A plain path that leads somewhere can be removed, or there is nothing. -/
theorem unlink_cases (hp : t.Plain p) (hl : t.place? p = some l) :
    t.unlink p = .error .notFound ∨ ∃ t', t.unlink p = .ok t' := by
  unfold unlink
  rw [← hp.resolve_eq, show t.resolve p = .ok l from toOption_eq_some.1 hl]
  rcases shapeAt_eq_none (hp.shapeAt_place hl) with hg | ⟨old, hg⟩
  · left; simp [hg]
  · right; exact ⟨t.erase l, by simp [hg]⟩

namespace Sets

variable {content : Option (List UInt8)}

/-- **The end of another path** keeps its content. -/
theorem content?_of_parted (h : t.Sets p content t') (hq : t.Parted p q) :
    t'.content? q = t.content? q := by
  rw [content?_eq, content?_eq, ← h.shape.place?_eq]
  cases hk : t.place? q with
  | none => rfl
  | some k =>
    rw [Option.bind_some, Option.bind_some]
    unfold fileAt?
    rw [h.elsewhere k fun hp => hq k hp hk]

/-- Where there was a file, there is one after the end of a path has got a content. -/
theorem content?_of_some {new : List UInt8} (h : t.Sets p (some new) t')
    (hq : ∃ old, t.content? q = some old) : ∃ old, t'.content? q = some old := by
  obtain ⟨old, hold⟩ := hq
  obtain ⟨l, hl, hf⟩ := content?_eq_some.1 hold
  have hl' : t'.place? q = some l := h.shape.place?_eq q _ ▸ hl
  -- it is the file that has got the content, or it is as it was
  by_cases hp : t.place? p = some l
  · have hp' : t'.place? p = some l := h.shape.place?_eq p _ ▸ hp
    exact ⟨new, by rw [content?_of_place hl', ← content?_of_place hp', h.here]⟩
  · exact ⟨old, content?_eq_some.2 ⟨l, hl', (h.elsewhere l hp).trans hf⟩⟩

end Sets

end LiterateSite.Files.Tree
