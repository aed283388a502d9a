import LiterateSite.CommandLine.Commands
import LiterateSite.Proofs.Files.Extends
import LiterateSite.Proofs.Site.Steps

/-!
# Pieces of a new project

A new project is made file by file and directory by directory, and what is there is kept.

* `Piece`: a file or a directory to be made.
* `Piece.adds`, `Piece.done`, `Piece.run_of_done`: **what one piece does.** `adds_pieces`,
  `done_pieces`, `pieces_again`: what pieces one after the other do.
* `Landed`: where a file is in the end. `landed_of_split`: **a file among pieces**, whatever the
  tree is. `placed_of_split`: in a tree without links, where no earlier piece is about its place.
-/

namespace LiterateSite.CommandLine

open Files Files.Tree Site

variable {s s' : Session} {t t' : Tree} {p config : Path} {content : List Char}
  {D : Set Location} {P : Tree → Prop}

/-! ## Pieces -/

/-- A part of a new project: a file with its content, or a directory with the error it may be. -/
inductive Piece where
  | file (p : Path) (content : List Char)
  | directory (p : Path) (e : CommandError)

namespace Piece

/-- Make a piece, where files that are there are kept. -/
def run : Piece → Commanding Unit
  | file p content => place p content false
  | directory p e => makeDirectory p e

/-- The piece is there. -/
def Done (t : Tree) : Piece → Prop
  | file p _ => t.exists p = true
  | directory p _ => t.isDir p = true

/-- The path of a directory does not end with a slash. -/
def Plain : Piece → Prop
  | file _ _ => True
  | directory p _ => p.chars ≠ [] ∧ p.steps = p.parts

/-- On trees with a property, a directory comes to be within some places. -/
def Within (D : Set Location) (P : Tree → Prop) : Piece → Prop
  | file _ _ => True
  | directory p _ => ∀ t, P t → Adds D ∅ t (t.createDirAll p).1

end Piece

/-- The files that are written for pieces, with their contents. -/
def writtenBy (pieces : List Piece) : Set (Path × List UInt8) :=
  {x | ∃ content, .file x.1 content ∈ pieces ∧ x.2 = Text.Utf8.encode content}

theorem writtenBy_mono {pieces more : List Piece} (h : pieces ⊆ more) :
    writtenBy pieces ⊆ writtenBy more := fun _ ⟨content, hmem, hx⟩ => ⟨content, h hmem, hx⟩

/-! ## One piece -/

/-- **Placing a file** reports one that is there, and writes one where nothing is. -/
theorem place_cases (p : Path) (content : List Char) (s : Session) :
    (s.files.exists p = true ∧
      place p content false s = (.ok (), s.reporting (.alreadyThere p))) ∨
    s.files.exists p = false ∧
      ((∃ t, s.files.write p (Text.Utf8.encode content) = .ok t ∧
        place p content false s =
          (.ok (), ({ s with files := t } : Session).reporting (.created p))) ∨
      place p content false s = (.error (.write p), s)) := by
  unfold place
  rw [Building.bind_ok (show (get : Commanding Session) s = (.ok s, s) from rfl)]
  cases he : s.files.exists p with
  | true => exact .inl ⟨rfl, rfl⟩
  | false =>
    refine .inr ⟨rfl, ?_⟩
    cases hw : s.files.write p (Text.Utf8.encode content) with
    | ok t => exact .inl ⟨t, rfl, rfl⟩
    | error e => exact .inr rfl

/-- **Making a directory** keeps what has been created, even if it fails. -/
theorem makeDirectory_run (p : Path) (e : CommandError) (s : Session) :
    makeDirectory p e s = ((s.files.createDirAll p).2.mapError fun _ => e,
      { s with files := (s.files.createDirAll p).1 }) := by
  unfold makeDirectory
  rw [Building.bind_ok (show (get : Commanding Session) s = (.ok s, s) from rfl)]
  cases hc : s.files.createDirAll p with
  | mk t r => cases r <;> rfl

namespace Piece

variable {piece : Piece}

/-- **A piece adds** to the files that are there. -/
theorem adds (piece : Piece) (hD : piece.Within D P) (hP : P s.files) :
    Adds D (writtenBy [piece]) s.files (piece.run s).2.files := by
  cases piece with
  | file p content =>
    change Adds D _ s.files (place p content false s).2.files
    rcases place_cases p content s with ⟨-, h⟩ | ⟨hno, ⟨t, hw, h⟩ | h⟩
    · rw [h]
      exact Adds.refl _ _ _
    · rw [h]
      refine (adds_write hno hw).1.mono subset_rfl ?_
      rintro x rfl
      exact ⟨content, List.mem_singleton_self _, rfl⟩
    · rw [h]
      exact Adds.refl _ _ _
  | directory p e =>
    change Adds D _ s.files (makeDirectory p e s).2.files
    rw [makeDirectory_run]
    exact (hD s.files hP).mono subset_rfl (Set.empty_subset _)

/-- **A piece that goes through** is done. -/
theorem done (hp : piece.Plain) (h : (piece.run s).1 = .ok ()) :
    piece.Done (piece.run s).2.files := by
  cases piece with
  | file p content =>
    change (place p content false s).1 = .ok () at h
    change (place p content false s).2.files.exists p = true
    rcases place_cases p content s with ⟨hyes, heq⟩ | ⟨hno, ⟨t, hw, heq⟩ | heq⟩
    · rw [heq]
      exact hyes
    · rw [heq]
      have hread := (adds_write (D := ∅) hno hw).2
      exact exists_eq_true_iff.2 ⟨_, read_eq_ok_iff.1 hread⟩
    · rw [heq] at h
      cases h
  | directory p e =>
    change (makeDirectory p e s).1 = .ok () at h
    change (makeDirectory p e s).2.files.isDir p = true
    rw [makeDirectory_run] at h ⊢
    have hok : (s.files.createDirAll p).2 = .ok () := by
      cases hc : (s.files.createDirAll p).2 with
      | ok _ => rfl
      | error e => simp [hc, Except.mapError] at h
    exact createDirAll_isDir hp.2 hp.1 hok

/-- **A piece that is done** changes nothing. -/
theorem run_of_done (hp : piece.Plain) (h : piece.Done s.files) :
    (piece.run s).1 = .ok () ∧ (piece.run s).2.files = s.files := by
  cases piece with
  | file p content =>
    change (place p content false s).1 = .ok () ∧ (place p content false s).2.files = s.files
    rcases place_cases p content s with ⟨-, heq⟩ | ⟨hno, -⟩
    · rw [heq]
      exact ⟨rfl, rfl⟩
    · have hyes : s.files.exists p = true := h
      rw [hno] at hyes
      cases hyes
  | directory p e =>
    change (makeDirectory p e s).1 = .ok () ∧ (makeDirectory p e s).2.files = s.files
    rw [makeDirectory_run, createDirAll_of_isDir hp.2 hp.1 h]
    exact ⟨rfl, rfl⟩

theorem Done.extends (h : piece.Done t) (ht : Extends t t') : piece.Done t' := by
  cases piece with
  | file p content => exact ht.exists h
  | directory p e => exact ht.isDir h

end Piece

/-! ## All pieces -/

section pieces

variable {pieces before after : List Piece}

/-- **Pieces add** to the files that are there, whether they go through or not. -/
theorem adds_pieces (pieces : List Piece) (hext : ∀ t t', Extends t t' → P t → P t')
    (hD : ∀ piece ∈ pieces, piece.Within D P) : ∀ s : Session, P s.files →
      Adds D (writtenBy pieces) s.files (pieces.forM Piece.run s).2.files := by
  induction pieces with
  | nil => intro s _; exact Adds.refl _ _ _
  | cons piece rest ih =>
    intro s hP
    have hfirst := (piece.adds (hD piece List.mem_cons_self) hP).mono subset_rfl
      (writtenBy_mono (List.cons_subset_cons piece (List.nil_subset rest)))
    change Adds D _ s.files ((piece.run >>= fun _ => rest.forM Piece.run) s).2.files
    cases h : piece.run s with
    | mk r s₁ =>
      rw [h] at hfirst
      cases r with
      | error e =>
        rw [Building.bind_error h]
        exact hfirst
      | ok _ =>
        rw [Building.bind_ok h]
        have hrest := ih (fun piece' hmem => hD piece' (List.mem_cons_of_mem _ hmem)) s₁
          (hext _ _ hfirst.toExtends hP)
        exact hfirst.trans
          (hrest.mono subset_rfl (writtenBy_mono (List.subset_cons_self piece rest)))

/-- Pieces extend the files that are there. -/
theorem extends_pieces (pieces : List Piece) (s : Session) :
    Adds Set.univ (writtenBy pieces) s.files (pieces.forM Piece.run s).2.files :=
  adds_pieces pieces (P := fun _ => True) (fun _ _ _ _ => trivial)
    (fun piece _ => by
      cases piece with
      | file p content => trivial
      | directory p e => exact fun t _ => createDirAll_adds t p)
    s trivial

theorem of_cons {piece : Piece} (h : (piece :: pieces).forM Piece.run s = (.ok (), s')) : ∃ s₁,
    piece.run s = (.ok (), s₁) ∧ pieces.forM Piece.run s₁ = (.ok (), s') := by
  obtain ⟨_, s₁, hfirst, hrest⟩ := Building.bind_eq_ok h
  exact ⟨s₁, hfirst, hrest⟩

theorem of_append (h : (before ++ after).forM Piece.run s = (.ok (), s')) : ∃ s₁,
    before.forM Piece.run s = (.ok (), s₁) ∧ after.forM Piece.run s₁ = (.ok (), s') := by
  induction before generalizing s with
  | nil => exact ⟨s, rfl, h⟩
  | cons piece rest ih =>
    obtain ⟨s₁, hfirst, hrest⟩ := of_cons h
    obtain ⟨s₂, hbefore, hafter⟩ := ih hrest
    exact ⟨s₂, (Building.bind_ok hfirst).trans hbefore, hafter⟩

/-- **Pieces that go through** are all done in the end. -/
theorem done_pieces (hp : ∀ piece ∈ pieces, piece.Plain)
    (h : pieces.forM Piece.run s = (.ok (), s')) : ∀ piece ∈ pieces, piece.Done s'.files := by
  induction pieces generalizing s with
  | nil => intro piece hmem; cases hmem
  | cons piece rest ih =>
    obtain ⟨s₁, hfirst, hrest⟩ := of_cons h
    intro piece' hmem
    rcases List.mem_cons.1 hmem with rfl | hmem
    · have hdone := piece'.done (s := s) (hp piece' List.mem_cons_self) (by rw [hfirst])
      rw [hfirst] at hdone
      -- what comes later keeps it
      have hlater := (extends_pieces rest s₁).toExtends
      rw [hrest] at hlater
      exact hdone.extends hlater
    · exact ih (fun piece hmem => hp piece (List.mem_cons_of_mem _ hmem)) hrest piece' hmem

/-- **Pieces that are done** change nothing. -/
theorem pieces_again (hp : ∀ piece ∈ pieces, piece.Plain) : ∀ s : Session,
    (∀ piece ∈ pieces, piece.Done s.files) →
      ∃ s', pieces.forM Piece.run s = (.ok (), s') ∧ s'.files = s.files := by
  induction pieces with
  | nil => intro s _; exact ⟨s, rfl, rfl⟩
  | cons piece rest ih =>
    intro s hdone
    obtain ⟨hok, hsame⟩ := piece.run_of_done (hp piece List.mem_cons_self)
      (hdone piece List.mem_cons_self)
    have hfirst : piece.run s = (.ok (), (piece.run s).2) := Prod.ext hok rfl
    obtain ⟨s', hrest, hfiles⟩ := ih (fun piece hmem => hp piece (List.mem_cons_of_mem _ hmem))
      (piece.run s).2 fun piece' hmem => by
        rw [hsame]
        exact hdone piece' (List.mem_cons_of_mem _ hmem)
    exact ⟨s', (Building.bind_ok hfirst).trans hrest, hfiles.trans hsame⟩

end pieces

/-! ## Where the files are in the end -/

/-- **What a path of the project leads to** in the end, on the files before and after: the file that
has been written there, or something that was there before. Over links, and where paths coincide, it
may be a directory that the project has made, or a file that was written for an earlier path. -/
inductive Landed (t t' : Tree) (earlier : Set (Path × List UInt8)) (p : Path)
    (content : List Char) : Prop where
  | own (h : t'.read p = .ok (Text.Utf8.encode content))
  | kept (l : Location) (e : Files.Entry) (hp : t'.place? p = some l) (h : t.get? l = some e)
      (h' : t'.get? l = some e)
  | directory (l : Location) (hp : t'.place? p = some l) (h : t.get? l = none)
      (h' : t'.get? l = some .directory)
  | earlier (x : Path × List UInt8) (hx : x ∈ earlier) (hp : t'.place? x.1 = t'.place? p)
      (h : t'.read p = .ok x.2)

/-- **A path is as it was**, or it has got the content of the project where nothing was. -/
def Placed (t t' : Tree) (p : Path) (content : List Char) : Prop :=
  (∃ e, t.stat p = .ok e ∧ t'.stat p = .ok e) ∨
    t.exists p = false ∧ t'.read p = .ok (Text.Utf8.encode content)

section split

variable {before after : List Piece}

/-- The files when the turn of a file comes, and those after it. -/
theorem of_split (before : List Piece)
    (h : (before ++ .file p content :: after).forM Piece.run s = (.ok (), s')) :
    ∃ s₁, before.forM Piece.run s = (.ok (), s₁) ∧ Extends s₁.files s'.files ∧
      ((∃ e, s₁.files.stat p = .ok e ∧ s'.files.stat p = .ok e) ∨
        s₁.files.exists p = false ∧ s'.files.read p = .ok (Text.Utf8.encode content)) := by
  obtain ⟨s₁, hbefore, h⟩ := of_append h
  obtain ⟨s₂, hfile, hafter⟩ := of_cons h
  have hlater : Extends s₂.files s'.files := by
    have hadds := (extends_pieces after s₂).toExtends
    rwa [hafter] at hadds
  have hnow : Extends s₁.files s₂.files := by
    have hadds := (extends_pieces [.file p content] s₁).toExtends
    have hone : ([Piece.file p content]).forM Piece.run s₁ = (.ok (), s₂) :=
      (Building.bind_ok hfile).trans rfl
    rwa [hone] at hadds
  refine ⟨s₁, hbefore, hnow.trans hlater, ?_⟩
  change place p content false s₁ = (.ok (), s₂) at hfile
  rcases place_cases p content s₁ with ⟨hyes, -⟩ | ⟨hno, ⟨t, hw, heq⟩ | heq⟩
  · obtain ⟨e, hs⟩ := exists_eq_true_iff.1 hyes
    exact .inl ⟨e, hs, hlater.stat (hnow.stat hs)⟩
  · have hread := (adds_write (D := ∅) hno hw).2
    rw [heq] at hfile
    cases hfile
    exact .inr ⟨hno, hlater.read hread⟩
  · rw [heq] at hfile
    cases hfile

/-- **Where a file of the project is** after all pieces. -/
theorem landed_of_split (h : (before ++ .file p content :: after).forM Piece.run s = (.ok (), s')) :
    Landed s.files s'.files (writtenBy before) p content := by
  obtain ⟨s₁, hbefore, hext, ⟨e, hs, -⟩ | ⟨-, hread⟩⟩ := of_split before h
  · have hadds := extends_pieces before s
    rw [hbefore] at hadds
    obtain ⟨l, hl, he⟩ := stat_eq_ok.1 hs
    have hl' := hext.place? hl
    have he' := hext.kept l e he
    -- what was found there was there before, or one of the earlier pieces has made it
    rcases hadds.cases he with hold | ⟨hnone, ⟨-, rfl⟩ | ⟨x, hx, hplace, rfl⟩⟩
    · exact .kept l e hl' hold he'
    · exact .directory l hl' hnone he'
    · refine .earlier x hx ((hext.place? hplace).trans hl'.symm) ?_
      exact read_eq_ok_iff.2 (stat_eq_ok.2 ⟨l, hl', he'⟩)
  · exact .own hread

/-- **The first file** is as it was, or it has got its content. -/
theorem placed_first (h : (.file p content :: after).forM Piece.run s = (.ok (), s')) :
    Placed s.files s'.files p content := by
  obtain ⟨s₁, hbefore, -, hplaced⟩ := of_split [] h
  cases hbefore
  exact hplaced

/-- **Without links**, a file is as it was, or it has got its content, if no earlier piece is about
its place. -/
theorem placed_of_split (before : List Piece) (hl : s.files.Linkless)
    (h : (before ++ .file p content :: after).forM Piece.run s = (.ok (), s'))
    (hway : s.files.get? (p.goal s.files.workDir) ≠ none →
      ∀ k ∈ p.way s.files.workDir, s.files.get? k ≠ none)
    (hmade : ∀ q e, .directory q e ∈ before → p.goal s.files.workDir ∉ q.way s.files.workDir)
    (hfiles : ∀ x ∈ writtenBy before, x.1.goal s.files.workDir ≠ p.goal s.files.workDir) :
    Placed s.files s'.files p content := by
  obtain ⟨s₁, hbefore, hext, hplaced⟩ := of_split before h
  have hadds := adds_pieces before
    (D := {k | ∃ q e, .directory q e ∈ before ∧ k ∈ q.way s.files.workDir})
    (P := fun t => t.Linkless ∧ t.workDir = s.files.workDir)
    (fun t t' ht hP => ⟨ht.linkless hP.1, ht.workDir.trans hP.2⟩)
    (fun piece hmem => by
      cases piece with
      | file q c => trivial
      | directory q e =>
        rintro t ⟨hlinkless, hwork⟩
        refine (hlinkless.createDirAll_adds q).mono (fun k hk => ⟨q, e, hmem, ?_⟩) subset_rfl
        rwa [← hwork])
    s ⟨hl, rfl⟩
  rw [hbefore] at hadds
  have hl₁ := hadds.linkless hl
  rcases hplaced with ⟨e, hs, hs'⟩ | ⟨hno, hread⟩
  · -- it was there at its turn, and no earlier piece can have made it
    obtain ⟨l, hplace, he⟩ := stat_eq_ok.1 hs
    have hgoal : l = p.goal s.files.workDir := by
      rw [← hadds.workDir]
      exact place?_goal (fun k _ => hl₁ k) hplace
    rcases hadds.cases he with hold | ⟨-, ⟨⟨q, e', hmem, hk⟩, -⟩ | ⟨x, hx, hplacex, -⟩⟩
    · have hsame : s.files.stat p = s₁.files.stat p := by
        refine stat_congr hadds.workDir.symm (fun k hk => ?_) fun k _ => hl k
        have hsome : s.files.get? (p.goal s.files.workDir) ≠ none := by
          rw [← hgoal, hold]
          exact Option.some_ne_none e
        obtain ⟨e', he'⟩ := Option.ne_none_iff_exists'.1 (hway hsome k hk)
        rw [he', hadds.kept k e' he']
      exact .inl ⟨e, hsame.trans hs, hs'⟩
    · exact absurd (hgoal ▸ hk) (hmade q e' hmem)
    · have hx' : l = x.1.goal s.files.workDir := by
        rw [← hadds.workDir]
        exact place?_goal (fun k _ => hl₁ k) hplacex
      exact absurd (hx'.symm.trans hgoal) (hfiles x hx)
  · refine .inr ⟨?_, hread⟩
    -- what was there before would have been there at its turn
    cases hyes : s.files.exists p with
    | false => rfl
    | true =>
      rw [hadds.exists hyes] at hno
      cases hno

end split

end LiterateSite.CommandLine
