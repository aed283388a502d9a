import LiterateSite.Proofs.Site.Interrupted
import LiterateSite.Proofs.Site.Touch

/-!
# What a failing call leaves

In a tree without links, with a runner that touches no file. Whatever is at the paths of the kept
files, a file, a directory or nothing, a call that fails leaves no digest that could be trusted.

* `stat_toOption`, `Rewrites.stat_toOption`: what a path leads to, and when it stays so.
* `Entry.goal_kept_ne`: the two kept files of an example have places of their own.
* `exists_of_removeIfThere`: what has been removed is not there.
* `SparesOthers`: a change that concerns the kept files of an example only.
* `Distrusted`: there is no digest.
* `Refreshed.distrusted`, `Ensured.distrusted`: **a failure leaves all as it was, or no digest.**
* `failed_call_is_not_trusted`: so the next call is no hit, and nothing else has changed.
-/

namespace LiterateSite.Files.Tree

variable {t t' : Tree} {p q : Path} {P : Set Path} {l : Location}

/-- What a path leads to is what is at its place. -/
theorem stat_toOption (t : Tree) (p : Path) (follow : Bool) :
    (t.stat p follow).toOption = (t.place? p follow).bind t.get? := by
  unfold stat place?
  cases t.resolve p follow with
  | error e => rfl
  | ok l =>
    simp only [Except.toOption, Option.bind_some]
    cases t.get? l with
    | none => rfl
    | some e => rfl

/-- **What the ends of other paths lead to** stays as it is. -/
theorem Rewrites.stat_toOption (h : Rewrites P t t') (hl : Linkless t)
    (hq : ∀ p ∈ P, p.goal t.workDir ≠ q.goal t.workDir) :
    (t'.stat q).toOption = (t.stat q).toOption := by
  rw [Tree.stat_toOption, Tree.stat_toOption, ← h.shape.place?_eq]
  cases hp : t.place? q with
  | none => rfl
  | some l =>
    rw [Option.bind_some, Option.bind_some]
    refine h.get?_eq fun p hmem => ?_
    rw [place?_goal (fun k _ => hl k) hp]
    exact hq p hmem

/-- A plain path without content leads to nothing. -/
theorem Plain.exists_eq_false (hp : t.Plain p) (h : t.content? p = none) : t.exists p = false := by
  unfold Tree.exists
  rw [Tree.stat_toOption]
  cases hl : t.place? p with
  | none => rfl
  | some l =>
    rw [content?_of_place hl] at h
    rw [Option.bind_some]
    rcases shapeAt_eq_none (hp.shapeAt_place hl) with hn | ⟨content, hf⟩
    · rw [hn]
      rfl
    · rw [fileAt?_eq_some.2 hf] at h
      cases h

theorem content?_of_not_exists (h : t.exists p = false) : t.content? p = none := by
  unfold Tree.exists at h
  rw [Tree.stat_toOption] at h
  rw [content?_eq]
  cases hl : t.place? p with
  | none => rfl
  | some l =>
    rw [hl, Option.bind_some, Option.isSome_eq_false_iff, Option.isNone_iff_eq_none] at h
    rw [Option.bind_some]
    unfold fileAt?
    rw [h]

end LiterateSite.Files.Tree

namespace LiterateSite.Site

open Files Files.Tree Text

variable {e : Entry} {runner : Runner} {source : List UInt8} {digest : String} {t t' : Tree}
  {p : Path} {w : Location} {s s' : Session} {err : BuildError}

/-- **The two kept files of an example** have places of their own: their names differ. -/
theorem Entry.goal_kept_ne (e : Entry) (w : Location) :
    (e.kept .digest).goal w ≠ (e.kept .transcript).goal w := by
  obtain ⟨chars, hk⟩ := e.kept_chars
  obtain ⟨before, last, hsteps⟩ := Path.steps_extended chars
  rw [← Path.goal_steps, ← Path.goal_steps, hk, hk, hsteps _ (by decide) (by decide),
    hsteps _ (by decide) (by decide), List.foldl_append, List.foldl_append]
  intro h
  have hname := Name.text.inj (List.cons.inj h).1
  exact absurd (List.append_cancel_left hname) (by decide)

/-- **What has been removed is not there.** -/
theorem exists_of_removeIfThere (hl : t.Linkless) (h : removeIfThere t p = .ok t') :
    t'.exists p = false := by
  have hp : t.Plain p := by
    unfold removeIfThere at h
    split at h
    · next hn =>
      -- nothing has been found at the end of the path
      intro l hplace
      unfold unlink at hn
      rw [toOption_eq_some.1 hplace] at hn
      unfold shapeAt
      cases hg : t.get? l with
      | none => rfl
      | some e => cases e <;> simp [hg] at hn
    · exact plain_of_unlink (fun k _ => hl k) h
  have hs := sets_removeIfThere hp h
  exact (hs.shape.plain hp).exists_eq_false hs.here

/-- **All but the kept files of an example is as it was**: what is at all other places, and where
paths lead. -/
structure SparesOthers (e : Entry) (t t' : Tree) : Prop where
  places : ∀ l, (∀ k, l ≠ (e.kept k).goal t.workDir) → t'.get? l = t.get? l
  paths : ∀ q follow, t'.place? q follow = t.place? q follow

theorem sparesOthers_of_rewrites (h : Rewrites (Set.range e.kept) t t') : SparesOthers e t t' := by
  refine ⟨fun l hne => h.get?_eq ?_, fun q follow => (h.shape.place?_eq q follow).symm⟩
  rintro _ ⟨k, rfl⟩ heq
  exact hne k heq.symm

/-- **There is no digest**; if it is the run that has failed, the transcript is as it was. -/
structure Distrusted (e : Entry) (err : BuildError) (t t' : Tree) : Prop where
  digest : t'.exists e.hashPath = false
  transcript : ∀ cause, err = .execution cause →
    (t'.stat e.transcriptPath).toOption = (t.stat e.transcriptPath).toOption

/-! ## Failures -/

section failures

variable (hl : s.files.Linkless) (hf : ∀ t p, (runner.run t p).files = t)

include hl hf

/-- **A run that fails, or whose transcript is not kept**: nothing has happened, or there is no
digest. -/
theorem Refreshed.distrusted {r : Except BuildError (List Char)}
    (h : Refreshed runner e digest s r s') (hr : r = .error err) :
    s' = s ∨ Distrusted e err s.files s'.files := by
  cases h with
  | stuck hd => exact .inl rfl
  | @failed t cause hd ho =>
    have hfiles : (({ s with files := t } : Session).ran runner e.source).files = t := hf t e.source
    refine .inr ⟨?_, fun cause' _ => ?_⟩
    · rw [hfiles]
      exact exists_of_removeIfThere hl hd
    · rw [hfiles]
      refine (rewrites_removeIfThere hl hd).stat_toOption hl ?_
      rintro _ rfl
      exact e.goal_kept_ne _
  | @unwritten t output cause hd ho hx =>
    have hfiles : (({ s with files := t } : Session).ran runner e.source).files = t := hf t e.source
    refine .inr ⟨?_, fun cause' he => ?_⟩
    · rw [hfiles]
      exact exists_of_removeIfThere hl hd
    · cases hr.trans (congrArg _ he)
  | @unsealed t t' output cause hd ho hx hh =>
    rw [hf] at hx
    refine .inr ⟨?_, fun cause' he => ?_⟩
    · -- the transcript is written elsewhere than the digest has been
      have hl' := (rewrites_removeIfThere hl hd).linkless hl
      have hstay : (t'.stat e.hashPath).toOption = (t.stat e.hashPath).toOption := by
        refine (rewrites_write hl' hx).stat_toOption hl' ?_
        rintro _ rfl
        exact (e.goal_kept_ne _).symm
      have hgone := exists_of_removeIfThere hl hd
      unfold Tree.exists at hgone ⊢
      exact (congrArg Option.isSome hstay).trans hgone
    · cases hr.trans (congrArg _ he)
  | done => cases hr

/-- **A call that fails** has changed nothing and run nothing, or it leaves no digest. -/
theorem Ensured.distrusted (h : Ensured runner e source s (.error err) s') :
    (s'.files = s.files ∧ s'.runs = s.runs) ∨ Distrusted e err s.files s'.files := by
  cases h with
  | unread => exact .inl ⟨rfl, rfl⟩
  | missed hs hlook hr =>
    rcases Refreshed.distrusted (s := s.reporting _) hl hf hr rfl with rfl | h
    · exact .inl ⟨rfl, rfl⟩
    · exact .inr h

/-- **The kept files are no hit after a failure.** -/
theorem Ensured.not_hit_again (h : Ensured runner e source s (.error err) s') (text : List Char) :
    lookUp s'.files e (sourceDigest e.id source) ≠ .ok (.hit, text) := by
  intro hit
  rcases h.distrusted hl hf with ⟨hfiles, -⟩ | hdis
  · -- they would have been a hit before
    rw [hfiles] at hit
    cases h with
    | unread hlook => cases hlook.symm.trans hit
    | missed hs hlook hr => cases hlook.symm.trans hit; exact hs rfl
  · obtain ⟨known, bytes, hknown, -⟩ := lookUp_hit hit
    exact absurd (hknown.symm.trans (content?_of_not_exists hdis.digest)) (Option.some_ne_none _)

end failures

/-- **A call that fails leaves nothing to be trusted.** Its runner touches no file, and there are no
links; what is at the paths of the kept files does not matter. Then no call changes anything but the
kept files. If it fails, it has changed nothing and run nothing, or the digest is not there any more,
and the transcript is as it was if it is the run that has failed. So no call for the same source is
a hit after it. -/
theorem failed_call_is_not_trusted (hl : s.files.Linkless)
    (hf : ∀ t p, (runner.run t p).files = t) {r : Except BuildError Transcript}
    (h : ensureFresh runner e source s = (r, s')) :
    SparesOthers e s.files s'.files ∧ ∀ err, r = .error err →
      ((s'.files = s.files ∧ s'.runs = s.runs) ∨ Distrusted e err s.files s'.files) ∧
      ∀ (runner' : Runner) (again : Session) (x : Transcript), again.files = s'.files →
        (ensureFresh runner' e source again).1 = .ok x → x.status ≠ .hit := by
  have hrewrites := touches_ensureFresh hf e source s hl
  rw [h] at hrewrites
  refine ⟨sparesOthers_of_rewrites hrewrites, ?_⟩
  rintro err rfl
  have hend := ensured h
  refine ⟨hend.distrusted hl hf, fun runner' again x hfiles hx hhit => ?_⟩
  have hlook := (ensured (Prod.ext hx rfl)).hit_text hhit
  rw [hfiles] at hlook
  exact hend.not_hit_again hl hf x.text hlook

/-- There is a directory in place of the transcript, and a digest of another source. The example
runs, its transcript cannot be written, and the digest is gone. -/
theorem failed_call_is_not_trusted_blocked :
    let t : Tree := { entries := [([.text ['a']], .directory),
      ([.text "a.hash".toList, .text ['a']], .file [1]),
      ([.text "a.transcript".toList, .text ['a']], .directory)] }
    let a : Entry := ⟨"a", "A", ⟨['a']⟩, ⟨"a/a.js".toList⟩, none, none⟩
    let speaks : Runner := ⟨fun t _ => ⟨.ok [104, 105], t, []⟩⟩
    let call := ensureFresh speaks a [] { files := t }
    call.1 = .error (.io a.transcriptPath .isDirectory) ∧ call.2.runs = [a.source] ∧
      call.2.files.exists a.hashPath = false ∧ call.2.files.isDir a.transcriptPath = true ∧
      ∀ x, (ensureFresh speaks a [] call.2).1 = .ok x → x.status ≠ .hit := by
  intro t a speaks call
  have hl : t.Linkless := noLink_of_entries (by decide)
  have hfail : call.1 = .error (.io a.transcriptPath .isDirectory) := by decide +kernel
  have hruns : call.2.runs = [a.source] := by decide +kernel
  obtain ⟨-, hend⟩ := failed_call_is_not_trusted (s := { files := t }) hl (fun _ _ => rfl)
    (Prod.ext hfail rfl : call = (.error (.io a.transcriptPath .isDirectory), call.2))
  obtain ⟨hleft, hagain⟩ := hend _ rfl
  refine ⟨hfail, hruns, ?_, by decide +kernel, fun x hx => hagain speaks call.2 x rfl hx⟩
  rcases hleft with ⟨-, hnone⟩ | hdis
  · rw [hruns] at hnone
    cases hnone
  · exact hdis.digest

end LiterateSite.Site
