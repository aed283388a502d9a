import LiterateSite.Proofs.Files.Effect
import LiterateSite.Proofs.Files.Parts

/-!
# Paths that differ in their last name

* `split_append_plain`, `steps_extended`: a text that is put at the end of a path belongs to its
  last name.
* `advance_last`, `walk_last`: **the last name on a way is looked up in the directory that the steps
  before it lead to.**
* `parted_extended`: **paths that differ in the end of their last name** lead to different places,
  if they are no links.
-/

namespace LiterateSite.Files

namespace Path

variable {a cs ds : List Char}

/-- **A text without slashes** that is put at the end of another one belongs to its last part. -/
theorem split_append_plain (a : List Char) : ∃ before last, '/' ∉ last ∧
    ∀ cs, '/' ∉ cs → split (a ++ cs) = before ++ [last ++ cs] := by
  induction a with
  | nil => exact ⟨[], [], List.not_mem_nil, fun cs h => split_plain h⟩
  | cons c a ih =>
    obtain ⟨before, last, hlast, hsplit⟩ := ih
    by_cases hc : c = '/'
    · refine ⟨[] :: before, last, hlast, fun cs h => ?_⟩
      rw [hc, List.cons_append, split_slash, hsplit cs h]
      rfl
    · -- the character joins the first part, which is the last one if there is no other
      cases before with
      | nil =>
        refine ⟨[], c :: last, ?_, fun cs h => split_cons hc (hsplit cs h)⟩
        rw [List.mem_cons, not_or]
        exact ⟨Ne.symm hc, hlast⟩
      | cons part before =>
        exact ⟨(c :: part) :: before, last, hlast, fun cs h => split_cons hc (hsplit cs h)⟩

/-- A name that goes on for more than two characters is no dots. -/
theorem plainName_append {last : List Char} (hlast : '/' ∉ last) (h : '/' ∉ cs)
    (hlen : 2 < cs.length) : PlainName (last ++ cs) := by
  have hsize : 2 < (last ++ cs).length := by
    rw [List.length_append]
    omega
  refine ⟨?_, ?_, ?_, ?_⟩
  · rintro he
    rw [he] at hsize
    exact absurd hsize (by decide)
  · rw [List.mem_append, not_or]
    exact ⟨hlast, h⟩
  · rintro he
    rw [he] at hsize
    exact absurd hsize (by decide)
  · rintro he
    rw [he] at hsize
    exact absurd hsize (by decide)

/-- **The steps of paths that differ in the end of their last name** differ in the last step. -/
theorem steps_extended (a : List Char) : ∃ before last, ∀ cs, '/' ∉ cs → 2 < cs.length →
    steps ⟨a ++ cs⟩ = before ++ [.name (.text (last ++ cs))] := by
  obtain ⟨before, last, hlast, hsplit⟩ := split_append_plain a
  refine ⟨before.filterMap step?, last, fun cs hcs hlen => ?_⟩
  -- the last character is no slash
  have hend : ((a ++ cs).getLast? == some '/') = false := by
    rw [beq_eq_false_iff_ne, List.getLast?_append_of_ne_nil _ (by rintro rfl; cases hlen)]
    exact fun hs => hcs (List.mem_of_getLast? hs)
  rw [steps_eq, hend, if_neg Bool.false_ne_true, List.append_nil]
  unfold parts
  rw [hsplit cs hcs, List.filterMap_append, List.filterMap_cons, List.filterMap_nil,
    (plainName_append hlast hcs hlen).step?]

theorem isAbsolute_extended (hcs : '/' ∉ cs) (hds : '/' ∉ ds) :
    (⟨a ++ cs⟩ : Path).isAbsolute = (⟨a ++ ds⟩ : Path).isAbsolute := by
  cases a with
  | nil => rw [List.nil_append, List.nil_append, isAbsolute_plain hcs, isAbsolute_plain hds]
  | cons c a => rfl

end Path

namespace Tree

variable {t : Tree} {l k : Location} {n : Name} {steps : List Step}

/-- What is reached on the way before the last name, if anything is reached after it. -/
def Reached.Before (n : Name) : Reached → Reached → Prop
  | .place k, .place d => k = n :: d
  | .link d target rest, .link d' target' rest' =>
    d = d' ∧ target = target' ∧ rest = rest' ++ [.name n]
  | _, _ => False

/-- **The last name on a way** up to the first link. -/
theorem advance_last (steps : List Step) : ∀ l r,
    t.advance false l (steps ++ [.name n]) = .ok r →
      ∃ r', t.advance true l steps = .ok r' ∧ r.Before n r' := by
  induction steps with
  | nil =>
    intro l r h
    refine ⟨.place l, rfl, ?_⟩
    rw [List.nil_append] at h
    have hd : t.get? l = some .directory := by
      by_contra hd
      have hnone : (t.advance false l [.name n]).toOption = none :=
        advance_of_not_directory hd (.name n) []
      rw [h] at hnone
      exact absurd hnone (Option.some_ne_none _)
    by_cases hn : n.size > 255
    · rw [advance_long hd hn] at h
      cases h
    · by_cases hl : ∃ target, t.get? (n :: l) = some (.link target)
      · obtain ⟨target, ht⟩ := hl
        rw [advance_link hd hn ht] at h
        cases h
        rfl
      · rw [advance_name hd hn fun target ht => hl ⟨target, ht⟩] at h
        cases h
        rfl
  | cons s rest ih =>
    intro l r h
    rw [List.cons_append] at h
    have hd : t.get? l = some .directory := by
      by_contra hd
      have hnone : (t.advance false l (s :: (rest ++ [.name n]))).toOption = none :=
        advance_of_not_directory hd s _
      rw [h] at hnone
      exact absurd hnone (Option.some_ne_none _)
    cases s with
    | up => rw [advance_up hd] at h ⊢; exact ih _ _ h
    | here => rw [advance_here hd] at h ⊢; exact ih _ _ h
    | slash => rw [advance_slash hd] at h ⊢; exact ih _ _ h
    | name m =>
      by_cases hm : m.size > 255
      · rw [advance_long hd hm] at h
        cases h
      · by_cases hl : ∃ target, t.get? (m :: l) = some (.link target)
        · -- a link before the last name is followed in any case
          obtain ⟨target, ht⟩ := hl
          have hrest : (rest ++ [Step.name n]).isEmpty = false := by
            rw [List.isEmpty_eq_false_iff]
            simp
          rw [advance_link hd hm ht, hrest] at h
          rw [advance_link hd hm ht, Bool.not_true, Bool.and_false]
          cases h
          exact ⟨_, rfl, rfl, rfl, rfl⟩
        · have ht : ∀ target, t.get? (m :: l) ≠ some (.link target) := fun x hx => hl ⟨x, hx⟩
          rw [advance_name hd hm ht] at h ⊢
          exact ih _ _ h

/-- **The last name on a way** is looked up where the steps before it lead to. -/
theorem walk_last (fuel : Nat) : ∀ l steps k,
    t.walk false fuel l (steps ++ [.name n]) = .ok k →
      ∃ d, t.walk true fuel l steps = .ok d ∧ k = n :: d := by
  -- both ways come to the same links, so they may follow as many
  induction fuel with
  | zero => intro l steps k h; cases h
  | succ fuel ih =>
    intro l steps k h
    unfold walk at h ⊢
    cases ha : t.advance false l (steps ++ [.name n]) with
    | error e => rw [ha] at h; cases h
    | ok r =>
      obtain ⟨r', hr', hb⟩ := advance_last steps l r ha
      rw [ha] at h
      rw [hr']
      cases r with
      | place k' =>
        cases r' with
        | place d =>
          cases h
          exact ⟨d, rfl, hb⟩
        | link d target rest => exact hb.elim
      | link d target rest =>
        cases r' with
        | place d => exact hb.elim
        | link d' target' rest' =>
          obtain ⟨rfl, rfl, rfl⟩ := hb
          simp only at h ⊢
          rw [← List.append_assoc] at h
          exact ih _ _ _ h

/-- **Paths that differ in the end of their last name** lead to different places. -/
theorem parted_extended {a cs ds : List Char} (hcs : '/' ∉ cs) (hds : '/' ∉ ds)
    (hclen : 2 < cs.length) (hdlen : 2 < ds.length) (hne : cs ≠ ds) (hc : t.Plain ⟨a ++ cs⟩)
    (hd : t.Plain ⟨a ++ ds⟩) : t.Parted ⟨a ++ cs⟩ ⟨a ++ ds⟩ := by
  obtain ⟨before, last, hsteps⟩ := Path.steps_extended a
  intro l hl hl'
  rw [hc.place?_eq_noFollow] at hl
  rw [hd.place?_eq_noFollow] at hl'
  -- the steps before the last names are the same, and lead to one directory
  have hplace : ∀ es, '/' ∉ es → 2 < es.length → t.place? ⟨a ++ es⟩ false = some l →
      ∃ d, t.walk true maxLinks (if (⟨a ++ cs⟩ : Path).isAbsolute then [] else t.workDir) before =
        .ok d ∧ l = .text (last ++ es) :: d := by
    intro es hes hlen hp
    have hr := toOption_eq_some.1 hp
    unfold resolve resolveSteps at hr
    rw [hsteps es hes hlen, Path.isAbsolute_extended hes hcs] at hr
    split at hr
    · cases hr
    · split at hr
      · cases hr
      · exact walk_last _ _ _ _ hr
  obtain ⟨d, hw, he⟩ := hplace cs hcs hclen hl
  obtain ⟨d', hw', he'⟩ := hplace ds hds hdlen hl'
  have hnames := (List.cons.inj (he.symm.trans he')).1
  exact hne (List.append_cancel_left (Name.text.inj hnames))

end Tree

end LiterateSite.Files
