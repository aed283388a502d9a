import Mathlib.Data.Set.Insert
import LiterateSite.Proofs.Site.Refresh

/-!
# Kept files that do not get into each other's way

* `Apart`: the files kept for a set of examples are no links and no directories, and each has a
  place of its own.
* `Runner.Spares`: running an example leaves the kept files alone.
* `Confined`: a change that concerns the kept files of one example only.
* `Refreshed.confined`, `Ensured.confined`: **a call for one example leaves the others as they
  are.**
* `Ensured.own`: what it leaves of its own files.
-/

namespace LiterateSite.Site

open Files Files.Tree Text

/-- The files kept for the examples are regular files or not there, and no two of them have the
same place. -/
structure Apart (E : Set Entry) (t : Tree) : Prop where
  plain : ∀ e ∈ E, ∀ k, t.Plain (e.kept k)
  parted : ∀ e ∈ E, ∀ e' ∈ E, ∀ k k', (e, k) ≠ (e', k') → t.Parted (e.kept k) (e'.kept k')

/-- Whatever the runner does, the kept files stay where and as they are. -/
def Runner.Spares (runner : Runner) (E : Set Entry) : Prop :=
  ∀ t source, Apart E t → Apart E (runner.run t source).files ∧
    ∀ e ∈ E, ∀ k, (runner.run t source).files.content? (e.kept k) = t.content? (e.kept k)

/-- A change of the tree that concerns the kept files of one example at most. -/
structure Confined (E : Set Entry) (e : Entry) (t t' : Tree) : Prop where
  apart : Apart E t'
  others : ∀ e' ∈ E, e' ≠ e → ∀ k, t'.content? (e'.kept k) = t.content? (e'.kept k)

variable {E : Set Entry} {e : Entry} {runner : Runner} {t t' t'' : Tree} {s s' : Session}

theorem Apart.sameShape (h : Apart E t) (hs : SameShape t t') : Apart E t' :=
  ⟨fun e he k => hs.plain (h.plain e he k),
    fun e he e' he' k k' hne => hs.parted (h.parted e he e' he' k k' hne)⟩

/-- The two kept files of one example. -/
theorem apart_singleton (hp : ∀ k, t.Plain (e.kept k))
    (h : t.Parted (e.kept .digest) (e.kept .transcript)) : Apart {e} t := by
  refine ⟨?_, ?_⟩
  · rintro e' rfl
    exact hp
  · rintro e' rfl e'' rfl k k' hne
    cases k <;> cases k'
    · exact absurd rfl hne
    · exact h
    · exact h.symm
    · exact absurd rfl hne

/-- A runner that touches no file spares all kept ones. -/
theorem Runner.spares_of_files (h : ∀ t p, (runner.run t p).files = t) (E : Set Entry) :
    runner.Spares E := by
  intro t p ha
  rw [h]
  exact ⟨ha, fun _ _ _ => rfl⟩

/-! ## Changes one after the other -/

theorem Confined.refl (h : Apart E t) : Confined E e t t := ⟨h, fun _ _ _ _ => rfl⟩

theorem Confined.trans (h : Confined E e t t') (h' : Confined E e t' t'') : Confined E e t t'' :=
  ⟨h'.apart, fun e' he' hne k => (h'.others e' he' hne k).trans (h.others e' he' hne k)⟩

theorem Runner.Spares.confined (h : runner.Spares E) (ha : Apart E t) (source : Path) :
    Confined E e t (runner.run t source).files :=
  ⟨(h t source ha).1, fun e' he' _ k => (h t source ha).2 e' he' k⟩

/-- Giving a kept file a content leaves each other one with its content. -/
theorem Apart.content?_sets (h : Apart E t) (he : e ∈ E) {k : Kept} {content : Option (List UInt8)}
    (hs : t.Sets (e.kept k) content t') {e' : Entry} (he' : e' ∈ E) {k' : Kept}
    (hne : (e, k) ≠ (e', k')) : t'.content? (e'.kept k') = t.content? (e'.kept k') :=
  hs.content?_of_parted (h.parted e he e' he' k k' hne)

theorem Apart.confined_sets (h : Apart E t) (he : e ∈ E) {k : Kept}
    {content : Option (List UInt8)} (hs : t.Sets (e.kept k) content t') : Confined E e t t' :=
  ⟨h.sameShape hs.shape,
    fun _ he' hne _ => h.content?_sets he hs he' fun heq => hne (Prod.mk.inj heq).1.symm⟩

/-! ## Runs -/

/-- The removal of a digest. -/
theorem Apart.removed (h : Apart E t) (he : e ∈ E) (hr : removeIfThere t e.hashPath = .ok t') :
    Confined E e t t' ∧ t'.content? e.hashPath = none := by
  have hs : t.Sets (e.kept .digest) none t' := sets_removeIfThere (h.plain e he .digest) hr
  exact ⟨h.confined_sets he hs, hs.here⟩

/-- The writing of a transcript. -/
theorem Apart.transcript_written (h : Apart E t) (he : e ∈ E) {content : List UInt8}
    (hw : t.write e.transcriptPath content = .ok t') :
    Confined E e t t' ∧ t'.content? e.transcriptPath = some content ∧
      t'.content? e.hashPath = t.content? e.hashPath := by
  have hs : t.Sets (e.kept .transcript) (some content) t' :=
    sets_write (h.plain e he .transcript) hw
  have hne : (e, Kept.transcript) ≠ (e, .digest) := by simp
  exact ⟨h.confined_sets he hs, hs.here, h.content?_sets he hs he hne⟩

/-- The writing of a digest. -/
theorem Apart.digest_written (h : Apart E t) (he : e ∈ E) {content : List UInt8}
    (hw : t.write e.hashPath content = .ok t') :
    Confined E e t t' ∧ t'.content? e.hashPath = some content ∧
      t'.content? e.transcriptPath = t.content? e.transcriptPath := by
  have hs : t.Sets (e.kept .digest) (some content) t' := sets_write (h.plain e he .digest) hw
  have hne : (e, Kept.digest) ≠ (e, .transcript) := by simp
  exact ⟨h.confined_sets he hs, hs.here, h.content?_sets he hs he hne⟩

/-- The digest stays away while the example is run. -/
theorem Apart.run_without_digest (h : Apart E t) (he : e ∈ E) (hr : runner.Spares E)
    (hd : removeIfThere t e.hashPath = .ok t') : Apart E (runner.run t' e.source).files ∧
      (runner.run t' e.source).files.content? e.hashPath = none := by
  obtain ⟨h₁, hn⟩ := h.removed he hd
  obtain ⟨h₂, hk⟩ := hr t' e.source h₁.apart
  exact ⟨h₂, (hk e he .digest).trans hn⟩

/-- **A run for one example** leaves the kept files of the others as they are. -/
theorem Refreshed.confined {digest : String} {r : Except BuildError (List Char)}
    (h : Refreshed runner e digest s r s') (ha : Apart E s.files) (he : e ∈ E)
    (hr : runner.Spares E) : Confined E e s.files s'.files := by
  cases h with
  | stuck hd => exact .refl ha
  | failed hd ho =>
    have h₁ := (ha.removed he hd).1
    exact h₁.trans (hr.confined h₁.apart _)
  | unwritten hd ho hx =>
    have h₁ := (ha.removed he hd).1
    exact h₁.trans (hr.confined h₁.apart _)
  | unsealed hd ho hx hh =>
    have h₁ := (ha.removed he hd).1
    have h₂ := hr.confined (e := e) h₁.apart e.source
    have h₃ := (h₂.apart.transcript_written he hx).1
    exact (h₁.trans h₂).trans h₃
  | done hd ho hx hh =>
    have h₁ := (ha.removed he hd).1
    have h₂ := hr.confined (e := e) h₁.apart e.source
    have h₃ := (h₂.apart.transcript_written he hx).1
    have h₄ := (h₃.apart.digest_written he hh).1
    exact ((h₁.trans h₂).trans h₃).trans h₄

/-- **What a run leaves of the kept files of its example**: all as it was, if the digest could not
be removed; else no digest, or the digest together with the transcript. -/
theorem Refreshed.own {digest : String} {r : Except BuildError (List Char)}
    (h : Refreshed runner e digest s r s') (ha : Apart E s.files) (he : e ∈ E)
    (hr : runner.Spares E) :
    (s'.files = s.files ∧ s'.runs = s.runs) ∨
      ∃ t, removeIfThere s.files e.hashPath = .ok t ∧ s'.runs = s.runs ++ [e.source] ∧
        (s'.files.content? e.hashPath = none ∨
          ∃ output, (runner.run t e.source).result = .ok output ∧
            s'.files.content? e.hashPath = some (Utf8.ofString digest) ∧
            s'.files.content? e.transcriptPath =
              some (Utf8.encode (transcriptText e.id output))) := by
  cases h with
  | stuck hd => exact .inl ⟨rfl, rfl⟩
  | failed hd ho => exact .inr ⟨_, hd, rfl, .inl (ha.run_without_digest he hr hd).2⟩
  | unwritten hd ho hx => exact .inr ⟨_, hd, rfl, .inl (ha.run_without_digest he hr hd).2⟩
  | unsealed hd ho hx hh =>
    obtain ⟨h₂, hn⟩ := ha.run_without_digest he hr hd
    obtain ⟨-, -, hk⟩ := h₂.transcript_written he hx
    exact .inr ⟨_, hd, rfl, .inl (hk.trans hn)⟩
  | done hd ho hx hh =>
    obtain ⟨h₃, ht, -⟩ := (ha.run_without_digest he hr hd).1.transcript_written he hx
    obtain ⟨-, hd', hk⟩ := h₃.apart.digest_written he hh
    exact .inr ⟨_, hd, rfl, .inr ⟨_, ho, hd', hk.trans ht⟩⟩

/-! ## Calls -/

/-- **A call for one example** leaves the kept files of the others as they are. -/
theorem Ensured.confined {source : List UInt8} {r : Except BuildError Transcript}
    (h : Ensured runner e source s r s') (ha : Apart E s.files) (he : e ∈ E)
    (hr : runner.Spares E) : Confined E e s.files s'.files := by
  cases h with
  | unread hl => exact .refl ha
  | hit hl => exact .refl ha
  | missed hs hl h => exact h.confined ha he hr
  | renewed hs hl h => exact h.confined ha he hr

/-- **What a call leaves of the kept files of its example**: all as it was, if nothing is run; else
no digest, or the digest together with the transcript. -/
theorem Ensured.own {source : List UInt8} {r : Except BuildError Transcript}
    (h : Ensured runner e source s r s') (ha : Apart E s.files) (he : e ∈ E)
    (hr : runner.Spares E) :
    (s'.files = s.files ∧ s'.runs = s.runs) ∨
      ∃ t, removeIfThere s.files e.hashPath = .ok t ∧ s'.runs = s.runs ++ [e.source] ∧
        (s'.files.content? e.hashPath = none ∨
          ∃ output, (runner.run t e.source).result = .ok output ∧
            s'.files.content? e.hashPath = some (Utf8.ofString (sourceDigest e.id source)) ∧
            s'.files.content? e.transcriptPath =
              some (Utf8.encode (transcriptText e.id output))) := by
  cases h with
  | unread hl => exact .inl ⟨rfl, rfl⟩
  | hit hl => exact .inl ⟨rfl, rfl⟩
  | missed hs hl h => exact h.own ha he hr
  | renewed hs hl h => exact h.own ha he hr

end LiterateSite.Site
