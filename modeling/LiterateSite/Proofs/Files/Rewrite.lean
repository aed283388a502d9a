import LiterateSite.Proofs.Files.Links

/-!
# Files that are written and removed

In a tree without links a path says which place is meant, so what steps write can be told by paths.

* `Linkless`: a tree without links.
* `Rewrites`: **at most the files at the ends of some paths are changed**; it has `refl`, `trans`
  and `mono`. `rewrites_write`, `rewrites_unlink`: the changes that it is made of.
* `Rewrites.read_of_ok`, `Rewrites.fileAt?_eq`: what can be read at the ends of other paths.
* `write_same`, `createDirAll_same`: **writing what is there already**, and creating a directory
  that is there, leave the tree as it is.
-/

namespace LiterateSite.Files

namespace Path

variable {p : Path} {cs : List Char}

theorem join_chars {q : Path} (h : q.isAbsolute = false) :
    ∃ slash, (p.join q).chars = p.chars ++ slash ++ q.chars := by
  unfold join
  rw [h, if_neg Bool.false_ne_true]
  split
  · exact ⟨[], by rw [List.append_nil]⟩
  · exact ⟨['/'], by rw [List.append_assoc]; rfl⟩

/-- The steps of a path with a name after it. -/
theorem steps_join_plain (h : PlainName cs) :
    (p.join ⟨cs⟩).steps = p.parts ++ [.name (.text cs)] := by
  have habs := isAbsolute_plain h.no_slash
  obtain ⟨slash, hchars⟩ := join_chars (p := p) habs
  -- the last character is one of the name
  have hend : ((p.join ⟨cs⟩).chars.getLast? == some '/') = false := by
    rw [beq_eq_false_iff_ne, hchars, List.getLast?_append_of_ne_nil _ h.ne_nil]
    exact fun hs => h.no_slash (List.mem_of_getLast? hs)
  rw [steps_eq, hend, if_neg Bool.false_ne_true, List.append_nil, parts_join habs, parts_plain h]

end Path

namespace Tree

variable {t t' t'' : Tree} {p q : Path} {l k : Location} {P Q : Set Path} {content : List UInt8}

theorem get?_of_shapeAt {e : Entry} (h : t.shapeAt l = some e) : t.get? l = some e := by
  unfold shapeAt at h
  split at h
  · cases h
  · exact h

/-- There are no links in the tree. -/
def Linkless (t : Tree) : Prop := ∀ l, t.NoLink l

theorem Linkless.sameShape (h : Linkless t) (hs : SameShape t t') : Linkless t' :=
  fun l => (h l).sameShape hs

theorem Linkless.grows {W : Set Location} (h : Linkless t) (hg : Grows W t t') : Linkless t' :=
  fun l => hg.noLink (h l)

/-- A file that can be read can still be read when directories have come to be. -/
theorem Grows.read_of_ok {W : Set Location} (h : Grows W t t') (hl : Linkless t)
    (hr : t.read q = .ok content) : t'.read q = .ok content := by
  obtain ⟨hfile, hway⟩ := way_of_read (fun k _ => hl k) hr
  rw [← hr]
  refine (read_congr h.workDir.symm (fun k hk => ?_) fun k _ => hl k).symm
  rcases hway k hk with rfl | hd
  · exact hfile.trans (h.get?_of_some hfile).symm
  · exact hd.trans (h.get?_of_some hd).symm

/-- Files stay as they are when directories come to be. -/
theorem Grows.fileAt?_eq {W : Set Location} (h : Grows W t t') (l : Location) :
    t'.fileAt? l = t.fileAt? l := by
  unfold fileAt?
  rcases h.places l with he | ⟨-, hn, hd⟩
  · rw [he]
  · rw [hn, hd]

theorem Grows.isDir {W : Set Location} (h : Grows W t t') (hl : t.Linkless)
    (hd : t.isDir q = true) : t'.isDir q = true := by
  rw [← hd]
  refine (isDir_congr h.workDir.symm (fun k hk => ?_) fun k _ => hl k).symm
  have hdir := (way_of_isDir (fun k _ => hl k) hd).2 k hk
  rw [hdir, h.get?_of_some hdir]

/-- **At most the files at the ends of the paths are changed.** They are written or removed; the way
to one that is changed leads over directories. -/
structure Rewrites (P : Set Path) (t t' : Tree) : Prop where
  shape : SameShape t t'
  places : ∀ l, t'.get? l = t.get? l ∨ ∃ p ∈ P, l = p.goal t.workDir ∧
    ∀ k ∈ p.way t.workDir, k = l ∨ t.get? k = some .directory
  names : ∀ root, (∀ p ∈ P, ∀ n, p.goal t.workDir ≠ n :: root) → t'.names root = t.names root

namespace Rewrites

theorem refl (P : Set Path) (t : Tree) : Rewrites P t t :=
  ⟨SameShape.refl t, fun _ => .inl rfl, fun _ _ => rfl⟩

theorem workDir (h : Rewrites P t t') : t'.workDir = t.workDir := h.shape.workDir.symm

theorem linkless (h : Rewrites P t t') (hl : Linkless t) : Linkless t' := hl.sameShape h.shape

theorem mono (h : Rewrites P t t') (hsub : P ⊆ Q) : Rewrites Q t t' := by
  refine ⟨h.shape, fun l => ?_, fun root hr => h.names root fun p hp => hr p (hsub hp)⟩
  rcases h.places l with he | ⟨p, hp, hl⟩
  · exact .inl he
  · exact .inr ⟨p, hsub hp, hl⟩

theorem trans (h : Rewrites P t t') (h' : Rewrites P t' t'') : Rewrites P t t'' := by
  refine ⟨h.shape.trans h'.shape, fun l => ?_, fun root hr => ?_⟩
  · rcases h'.places l with he' | ⟨p, hp, hl, hway⟩
    · rcases h.places l with he | hp
      · exact .inl (he'.trans he)
      · exact .inr hp
    · -- the directories on the way have been there before
      rw [h.workDir] at hl hway
      refine .inr ⟨p, hp, hl, fun k hk => ?_⟩
      rcases hway k hk with he | hd
      · exact .inl he
      · exact .inr ((h.shape.directory_iff k).2 hd)
  · rw [h'.names root fun p hp n => h.workDir ▸ hr p hp n, h.names root hr]

/-- A place that is not the end of one of the paths is as it was. -/
theorem get?_eq (h : Rewrites P t t') (hl : ∀ p ∈ P, p.goal t.workDir ≠ l) :
    t'.get? l = t.get? l := by
  rcases h.places l with he | ⟨p, hp, rfl, -⟩
  · exact he
  · exact absurd rfl (hl p hp)

theorem fileAt?_eq (h : Rewrites P t t') (hl : ∀ p ∈ P, p.goal t.workDir ≠ l) :
    t'.fileAt? l = t.fileAt? l := by
  unfold fileAt?
  rw [h.get?_eq hl]

/-- A directory is as it was. -/
theorem directory (h : Rewrites P t t') (hd : t.get? l = some .directory) :
    t'.get? l = some .directory := (h.shape.directory_iff l).1 hd

/-- **What is at a place that has changed** is a file or nothing, before and after. -/
theorem shapeAt_of_ne (h : Rewrites P t t') (hne : t'.get? l ≠ t.get? l) :
    t.shapeAt l = none ∧ t'.shapeAt l = none := by
  have hs := h.shape.shape l
  by_cases hn : t.shapeAt l = none
  · exact ⟨hn, hs ▸ hn⟩
  · -- a directory or a link would be there in both trees
    obtain ⟨e, he⟩ := Option.ne_none_iff_exists'.1 hn
    rw [he] at hs
    exact absurd ((get?_of_shapeAt hs.symm).trans (get?_of_shapeAt he).symm) hne

/-- **What can be read at the end of another path** can still be read. -/
theorem read_of_ok (h : Rewrites P t t') (hl : Linkless t)
    (hq : ∀ p ∈ P, p.goal t.workDir ≠ q.goal t.workDir) (hr : t.read q = .ok content) :
    t'.read q = .ok content := by
  have hway := (way_of_read (fun k _ => hl k) hr).2
  rw [← hr]
  refine (read_congr h.workDir.symm (fun k hk => ?_) fun k _ => hl k).symm
  rcases hway k hk with rfl | hd
  · exact (h.get?_eq hq).symm
  · exact hd.trans (h.directory hd).symm

theorem isDir (h : Rewrites P t t') (hd : t.isDir q = true) : t'.isDir q = true :=
  (h.shape.isDir_eq q).symm.trans hd

end Rewrites

/-! ## Single changes -/

theorem rewrites_of_sets {c : Option (List UInt8)} (hl : Linkless t) (h : t.Sets p c t') :
    Rewrites {p} t t' := by
  have hgoal : ∀ {l}, t.place? p = some l → l = p.goal t.workDir :=
    fun hp => place?_goal (fun k _ => hl k) hp
  refine ⟨h.shape, fun l => ?_, fun root hr => h.names root fun n hp => ?_⟩
  · by_cases hp : t.place? p = some l
    · exact .inr ⟨p, rfl, hgoal hp, (resolve_goal (fun k _ => hl k) (toOption_eq_some.1 hp)).2⟩
    · exact .inl (h.elsewhere l hp)
  · exact hr p rfl n (hgoal hp).symm

/-- **Writing** changes the file at the end of the path. -/
theorem rewrites_write (hl : Linkless t) (h : t.write p content = .ok t') : Rewrites {p} t t' :=
  rewrites_of_sets hl (sets_write (write_goal (fun k _ => hl k) h).1 h)

/-- **Removing** changes the file at the end of the path. -/
theorem rewrites_unlink (hl : Linkless t) (h : t.unlink p = .ok t') : Rewrites {p} t t' :=
  rewrites_of_sets hl (sets_unlink (plain_of_unlink (fun k _ => hl k) h) h)

/-- What has been written can be read. -/
theorem read_of_write (hl : Linkless t) (h : t.write p content = .ok t') :
    t'.read p = .ok content :=
  read_eq_ok.2 (sets_write (write_goal (fun k _ => hl k) h).1 h).here

/-! ## Changes that change nothing -/

theorem put_same {e : Entry} {es : List (Location × Entry)} (h : es.lookup l = some e) :
    put l e es = es := by
  induction es with
  | nil => cases h
  | cons x rest ih =>
    obtain ⟨k, old⟩ := x
    unfold put
    rw [List.lookup_cons] at h
    by_cases hk : k = l
    · subst hk
      simp only [beq_self_eq_true] at h
      rw [if_pos (beq_self_eq_true k), Option.some.inj h]
    · have hlk : (l == k) = false := beq_eq_false_iff_ne.2 (Ne.symm hk)
      rw [hlk] at h
      rw [if_neg (by simpa using hk), ih h]

theorem insert_same {e : Entry} (hl : l ≠ []) (h : t.get? l = some e) : t.insert l e = t := by
  unfold get? at h
  rw [if_neg (by simpa using hl)] at h
  unfold insert
  rw [put_same h]

/-- **Writing what is there** leaves the tree as it is. -/
theorem write_same (h : t.read p = .ok content) : t.write p content = .ok t := by
  obtain ⟨l, hl, hf⟩ := content?_eq_some.1 (read_eq_ok.1 h)
  have hne : l ≠ [] := by
    rintro rfl
    cases hf
  unfold write
  rw [toOption_eq_some.1 hl]
  simp only [hf]
  rw [insert_same hne hf]

section directories

variable {follow : Bool} {steps : List Step} {r : Reached} {cs : List Char}

/-- **A way that goes on** has led over directories, by names that are not too long. -/
theorem way_of_advance (hl : Linkless t) {s : Step} {more : List Step} (steps : List Step) : ∀ l,
    t.advance follow l (steps ++ s :: more) = .ok r →
      (∀ k ∈ wayFrom l steps, t.get? k = some .directory) ∧
        ∀ n, .name n ∈ steps → ¬ n.size > 255 := by
  induction steps with
  | nil =>
    intro l h
    rcases advance_cons_cases h with ⟨⟨hd, -⟩, -⟩ | ⟨n, target, -, -, -, ht, -⟩
    · refine ⟨fun k hk => ?_, fun n hn => absurd hn List.not_mem_nil⟩
      rw [List.mem_singleton.1 hk]
      exact hd
    · exact absurd ht (hl _ target)
  | cons s' rest ih =>
    intro l h
    rcases advance_cons_cases h with ⟨⟨hd, hn⟩, h⟩ | ⟨n, target, -, -, -, ht, -⟩
    · obtain ⟨hway, hsize⟩ := ih _ h
      refine ⟨fun k hk => ?_, fun n hmem => ?_⟩
      · rcases List.mem_cons.1 hk with rfl | hk
        · exact hd
        · exact hway k hk
      · rcases List.mem_cons.1 hmem with he | hmem
        · exact (hn n he.symm).1
        · exact hsize n hmem
    · exact absurd ht (hl _ target)

/-- **A way over directories** leads to its end. -/
theorem advance_of_way (steps : List Step) : ∀ l,
    (∀ k ∈ wayFrom l steps, t.get? k = some .directory) →
      (∀ n, .name n ∈ steps → ¬ n.size > 255) →
        t.advance follow l steps = .ok (.place (steps.foldl stepTo l)) := by
  induction steps with
  | nil => intro l _ _; rfl
  | cons s rest ih =>
    intro l hway hsize
    have hd := hway l List.mem_cons_self
    have hrest := ih (stepTo l s) (fun k hk => hway k (List.mem_cons_of_mem _ hk))
      fun n hn => hsize n (List.mem_cons_of_mem _ hn)
    cases s with
    | up => rw [advance_up hd]; exact hrest
    | here => rw [advance_here hd]; exact hrest
    | slash => rw [advance_slash hd]; exact hrest
    | name n =>
      have hn : t.get? (n :: l) = some .directory :=
        hway _ (List.mem_cons_of_mem _ (self_mem_wayFrom _ _))
      rw [advance_name hd (hsize n List.mem_cons_self) fun target ht => by rw [hn] at ht; cases ht]
      exact hrest

theorem resolveSteps_of_way (hne : p.chars ≠ []) (hnul : p.chars.contains '\x00' = false)
    (hway : ∀ k ∈ wayFrom (p.origin t.workDir) steps, t.get? k = some .directory)
    (hsize : ∀ n, .name n ∈ steps → ¬ n.size > 255) :
    t.resolveSteps follow p steps = .ok (steps.foldl stepTo (p.origin t.workDir)) := by
  unfold resolveSteps
  rw [if_neg (by rwa [List.isEmpty_iff]), hnul, if_neg Bool.false_ne_true]
  show t.walk follow (40 + 1) (p.origin t.workDir) steps = _
  unfold walk
  rw [advance_of_way steps _ hway hsize]

/-- The directory of a file that is reached is reached, too. -/
theorem way_of_child (hl : Linkless t) (hcs : Path.PlainName cs)
    (h : t.read (p.join ⟨cs⟩) = .ok content) : p.chars.contains '\x00' = false ∧
      (∀ k ∈ p.way t.workDir, t.get? k = some .directory) ∧
        ∀ n, .name n ∈ p.parts → ¬ n.size > 255 := by
  obtain ⟨l, hplace, -⟩ := content?_eq_some.1 (read_eq_ok.1 h)
  have hr := toOption_eq_some.1 hplace
  have habs := Path.isAbsolute_plain hcs.no_slash
  have horigin : (if (p.join ⟨cs⟩).isAbsolute then [] else t.workDir) = p.origin t.workDir :=
    Path.origin_join habs
  unfold resolve resolveSteps at hr
  rw [Path.steps_join_plain hcs, horigin] at hr
  split at hr
  · cases hr
  · split at hr
    · cases hr
    · next hnul =>
      refine ⟨?_, ?_⟩
      · obtain ⟨slash, hchars⟩ := Path.join_chars (p := p) habs
        rw [hchars] at hnul
        simp only [List.contains_eq_mem, List.mem_append, decide_eq_true_eq, not_or] at hnul ⊢
        exact decide_eq_false hnul.1.1
      · change t.walk true (40 + 1) _ _ = _ at hr
        unfold walk at hr
        cases ha : t.advance true (p.origin t.workDir) (p.parts ++ [.name (.text cs)]) with
        | error e => rw [ha] at hr; cases hr
        | ok r => exact way_of_advance hl p.parts _ ha

/-- **A directory in which a file can be read** can be created any number of times. -/
theorem createDirAll_same (hl : Linkless t) (hcs : Path.PlainName cs)
    (h : t.read (p.join ⟨cs⟩) = .ok content) : t.createDirAll p = (t, .ok ()) := by
  obtain ⟨hnul, hway, hsize⟩ := way_of_child hl hcs h
  unfold createDirAll
  by_cases hp : p.chars = []
  · unfold createDirs
    rw [if_pos (List.isEmpty_iff.2 hp)]
  have hgoal : t.get? (p.goal t.workDir) = some .directory := hway _ (Path.goal_mem_way _ _)
  have hcreate : t.createDir p = .error .alreadyExists := by
    unfold createDir
    have hend : t.get? (p.parts.foldl stepTo (p.origin t.workDir)) = some .directory := hgoal
    rw [filter_steps, resolveSteps_of_way hp hnul hway hsize]
    simp only [hend]
  have hdir : t.isDir p = true := by
    refine isDir_iff.2 ⟨p.goal t.workDir, toOption_eq_some.2 ?_, hgoal⟩
    unfold resolve
    rw [resolveSteps_of_way hp hnul (fun k hk => hway k (Path.mem_way_steps.1 hk)) fun n hn => ?_,
      Path.goal_steps]
    rw [Path.steps_eq, List.mem_append] at hn
    rcases hn with hn | hn
    · exact hsize n hn
    · split at hn
      · simp at hn
      · exact absurd hn List.not_mem_nil
  rw [createDirs_settle hp hcreate (by decide)]
  unfold settle
  rw [if_pos hdir]

end directories

end Tree

end LiterateSite.Files
