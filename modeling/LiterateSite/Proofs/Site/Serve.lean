import LiterateSite.Proofs.Site.Coherent

/-!
# Serving transcripts in a coherent tree

* `Runner.Computes`: a runner whose outputs are those of a function of ids and sources.
* `Renewed`: a change of the kept files of one id.
* `Sealed`: the kept files of an id are those of one run.
* `Served`: **what a call gives and leaves does not depend on the kept files**: only on the source,
  and on whether kept files can be written.
* `Refreshed.served`, `Ensured.served`: runs and calls do so.
-/

namespace LiterateSite.Site

open Files Files.Tree Text

/-- The outputs of the runner are those of `f`, and it touches no file. -/
structure Runner.Computes (runner : Runner) (layout : Layout) (ids : List String)
    (f : String → List UInt8 → Except RunError (List UInt8)) : Prop where
  files : ∀ t p, (runner.run t p).files = t
  result : ∀ t, ∀ id ∈ ids, ∀ source, t.read (layout.sourceOf id) = .ok source →
    (runner.run t (layout.sourceOf id)).result = f id source

/-- A change of the kept files of an id. -/
structure Renewed (layout : Layout) (w : Location) (id : String) (t t' : Tree) : Prop where
  shape : SameShape t t'
  places : ∀ l, (∀ k : Kept, l ≠ layout.beside w id k.suffix) → t'.get? l = t.get? l

/-- The paths of the kept files of an id lead somewhere. -/
def Keepable (layout : Layout) (id : String) (t : Tree) : Prop :=
  ∀ k, ∃ l, t.place? (layout.keptOf id k) = some l

/-- The kept files of an id are those of a run of a source. -/
structure Sealed (layout : Layout) (id : String) (source output : List UInt8) (t : Tree) :
    Prop where
  digest : t.content? (layout.keptOf id .digest) = some (Utf8.ofString (sourceDigest id source))
  transcript : t.content? (layout.keptOf id .transcript) =
    some (Utf8.encode (transcriptText id output))

/-- **What a call for the transcript of a source gives and leaves**: it succeeds exactly if the
kept files can be written and the source runs, and then the text and the kept files are those of
such a run. -/
structure Served (b : Builder) (ids : List String)
    (f : String → List UInt8 → Except RunError (List UInt8)) (S : String → Set (List UInt8))
    (w : Location) (id : String) (source : List UInt8) (t : Tree) (text? : Option (List Char))
    (t' : Tree) : Prop where
  coherent : Coherent b ids f S w t'
  renewed : Renewed b.layout w id t t'
  of_none : text? = none → Keepable b.layout id t → ∃ err, f id source = .error err
  of_some : ∀ text, text? = some text → Keepable b.layout id t ∧ ∃ output,
    f id source = .ok output ∧ text = transcriptText id output ∧
      Sealed b.layout id source output t'

variable {b : Builder} {ids : List String}
  {f : String → List UInt8 → Except RunError (List UInt8)} {S : String → Set (List UInt8)}
  {w l : Location} {layout : Layout} {t t' t'' : Tree} {id : String} {source output : List UInt8}

/-! ## Changes of kept files -/

theorem Renewed.refl : Renewed layout w id t t := ⟨SameShape.refl t, fun _ _ => rfl⟩

theorem Renewed.trans (h : Renewed layout w id t t') (h' : Renewed layout w id t' t'') :
    Renewed layout w id t t'' :=
  ⟨h.shape.trans h'.shape, fun l hl => (h'.places l hl).trans (h.places l hl)⟩

theorem Keepable.sameShape (h : Keepable layout id t) (hs : SameShape t t') :
    Keepable layout id t' := by
  intro k
  obtain ⟨l, hl⟩ := h k
  exact ⟨l, (hs.place?_eq _ _).symm.trans hl⟩

/-- A path with content leads somewhere. -/
theorem place?_of_content {p : Path} {content : List UInt8} (h : t.content? p = some content) :
    ∃ l, t.place? p = some l := by
  obtain ⟨l, hl, -⟩ := content?_eq_some.1 h
  exact ⟨l, hl⟩

theorem Sealed.keepable (h : Sealed layout id source output t) : Keepable layout id t := by
  intro k
  cases k with
  | digest => exact place?_of_content h.digest
  | transcript => exact place?_of_content h.transcript

theorem Sealed.matched (h : Sealed layout id source output t) (hs : source ∈ S id)
    (ho : f id source = .ok output) : Matched layout f S id t := by
  intro digest text hd hx
  refine ⟨source, hs, output, ho, ?_, ?_⟩
  · exact Option.some.inj (hd.symm.trans h.digest)
  · exact Option.some.inj (hx.symm.trans h.transcript)

namespace Coherent

variable (h : Coherent b ids f S w t) (ha : Arranged b ids w) (hid : id ∈ ids)

include h ha hid

theorem renewed_of_sets {k : Kept} {content : Option (List UInt8)}
    (hs : t.Sets (b.layout.keptOf id k) content t') : Renewed b.layout w id t t' :=
  ⟨hs.shape, fun _ hl => hs.elsewhere _ fun hp => hl k (h.place?_kept ha hid hp)⟩

/-- The removal of a digest. -/
theorem removed (hr : removeIfThere t (b.layout.keptOf id .digest) = .ok t') :
    Coherent b ids f S w t' ∧ Renewed b.layout w id t t' ∧
      t'.content? (b.layout.keptOf id .digest) = none := by
  have hs := sets_removeIfThere (h.plain id hid .digest) hr
  exact ⟨h.kept ha hid hs (matched_of_none hs.here), h.renewed_of_sets ha hid hs, hs.here⟩

/-- The writing of a transcript, when there is no digest. -/
theorem transcript_written {content : List UInt8}
    (hn : t.content? (b.layout.keptOf id .digest) = none)
    (hw : t.write (b.layout.keptOf id .transcript) content = .ok t') :
    Coherent b ids f S w t' ∧ Renewed b.layout w id t t' ∧
      t'.content? (b.layout.keptOf id .transcript) = some content := by
  have hs := sets_write (h.plain id hid .transcript) hw
  have hp : t.Parted (b.layout.keptOf id .transcript) (b.layout.keptOf id .digest) :=
    h.kept_parted ha hid hid (by simp)
  have hnone := (hs.content?_of_parted hp).trans hn
  exact ⟨h.kept ha hid hs (matched_of_none hnone), h.renewed_of_sets ha hid hs, hs.here⟩

/-- **The writing of a digest** seals the transcript that is there. -/
theorem digest_written (hin : source ∈ S id) (ho : f id source = .ok output)
    (hx : t.content? (b.layout.keptOf id .transcript) =
      some (Utf8.encode (transcriptText id output)))
    (hw : t.write (b.layout.keptOf id .digest) (Utf8.ofString (sourceDigest id source)) =
      .ok t') :
    Coherent b ids f S w t' ∧ Renewed b.layout w id t t' ∧
      Sealed b.layout id source output t' := by
  have hs := sets_write (h.plain id hid .digest) hw
  have hp : t.Parted (b.layout.keptOf id .digest) (b.layout.keptOf id .transcript) :=
    h.kept_parted ha hid hid (by simp)
  have hseal : Sealed b.layout id source output t' :=
    ⟨hs.here, (hs.content?_of_parted hp).trans hx⟩
  exact ⟨h.kept ha hid hs (hseal.matched hin ho), h.renewed_of_sets ha hid hs, hseal⟩

/-- A change of kept files leaves the source as it is. -/
theorem renewed_source (hr : Renewed b.layout w id t t') :
    t'.content? (b.layout.sourceOf id) = t.content? (b.layout.sourceOf id) := by
  rw [content?_eq, content?_eq, ← hr.shape.place?_eq]
  cases hl : t.place? (b.layout.sourceOf id) with
  | none => rfl
  | some l =>
    rw [Option.bind_some, Option.bind_some]
    unfold fileAt?
    rw [hr.places l fun k hk => ?_]
    rw [h.place?_source ha hid hl] at hk
    exact ha.not_kept k (Layout.beside_inj.1 hk).2

end Coherent

/-! ## Runs and calls -/

/-- A call that fails. -/
theorem served_of_none (h : Coherent b ids f S w t') (hr : Renewed b.layout w id t t')
    (hn : Keepable b.layout id t → ∃ err, f id source = .error err) :
    Served b ids f S w id source t none t' :=
  ⟨h, hr, fun _ => hn, fun _ ht => absurd ht.symm (Option.some_ne_none _)⟩

/-- A call that succeeds. -/
theorem served_of_some (h : Coherent b ids f S w t') (hr : Renewed b.layout w id t t')
    (ho : f id source = .ok output) (hs : Sealed b.layout id source output t') :
    Served b ids f S w id source t (some (transcriptText id output)) t' := by
  refine ⟨h, hr, fun hn => absurd hn (Option.some_ne_none _), fun text ht => ?_⟩
  exact ⟨hs.keepable.sameShape hr.shape.symm, output, ho, (Option.some.inj ht).symm, hs⟩

section serving

variable {e : Entry} {s s' : Session}

/-- **The files that an example is run on** have no digest of it, and the same source. -/
theorem Coherent.rerun (h : Coherent b ids f S w t) (ha : Arranged b ids w)
    (hc : b.runner.Computes b.layout ids f) (he : e ∈ entriesOf b.layout ids)
    (hs : t.read (b.layout.sourceOf e.id) = .ok source)
    (hd : removeIfThere t e.hashPath = .ok t') :
    (Coherent b ids f S w t' ∧ Renewed b.layout w e.id t t' ∧
      t'.content? (b.layout.keptOf e.id .digest) = none) ∧
    (b.runner.run t' e.source).files = t' ∧ (b.runner.run t' e.source).result = f e.id source := by
  have hid := Layout.id_mem he
  rw [Layout.hashPath_eq he] at hd
  have hgone := h.removed ha hid hd
  refine ⟨hgone, hc.files t' _, ?_⟩
  rw [Layout.source_eq he]
  refine hc.result t' e.id hid source ?_
  rw [read_eq_ok, h.renewed_source ha hid hgone.2.1, ← read_eq_ok]
  exact hs

/-- **A run** gives and leaves what it should. -/
theorem Refreshed.served {r : Except BuildError (List Char)}
    (hr : Refreshed b.runner e (sourceDigest e.id source) s r s') (h : Coherent b ids f S w s.files)
    (ha : Arranged b ids w) (hc : b.runner.Computes b.layout ids f)
    (he : e ∈ entriesOf b.layout ids) (hs : s.files.read (b.layout.sourceOf e.id) = .ok source) :
    Served b ids f S w e.id source s.files r.toOption s'.files := by
  have hid := Layout.id_mem he
  have hdigest := Layout.hashPath_eq he
  have htranscript := Layout.transcriptPath_eq he
  have hin : source ∈ S e.id := h.sources e.id hid source hs
  -- what fails is the source, or else one of the paths leads nowhere
  cases hr with
  | stuck hd =>
    refine served_of_none h .refl fun hk => ?_
    obtain ⟨l, hl⟩ := hk .digest
    obtain ⟨t, ht⟩ := removeIfThere_ok (h.plain e.id hid .digest) hl
    rw [hdigest, ht] at hd
    cases hd
  | @failed t err hd ho =>
    obtain ⟨⟨h₁, hr₁, -⟩, hf, hres⟩ := h.rerun ha hc he hs hd
    have hfiles : (Session.ran { s with files := t } b.runner e.source).files = t := hf
    rw [hfiles]
    exact served_of_none h₁ hr₁ fun _ => ⟨err, hres.symm.trans ho⟩
  | @unwritten t output err hd ho hx =>
    obtain ⟨⟨h₁, hr₁, -⟩, hf, hres⟩ := h.rerun ha hc he hs hd
    have hfiles : (Session.ran { s with files := t } b.runner e.source).files = t := hf
    rw [hfiles]
    refine served_of_none h₁ hr₁ fun hk => ?_
    obtain ⟨t', ht'⟩ := (write_ok_iff (h₁.plain e.id hid .transcript) _).2
      ((hk.sameShape hr₁.shape) .transcript)
    rw [hf, htranscript, ht'] at hx
    cases hx
  | @unsealed t t' output err hd ho hx hh =>
    obtain ⟨⟨h₁, hr₁, hn⟩, hf, hres⟩ := h.rerun ha hc he hs hd
    rw [hf, htranscript] at hx
    obtain ⟨h₂, hr₂, -⟩ := h₁.transcript_written ha hid hn hx
    refine served_of_none h₂ (hr₁.trans hr₂) fun hk => ?_
    obtain ⟨t'', ht''⟩ := (write_ok_iff (h₂.plain e.id hid .digest) _).2
      ((hk.sameShape (hr₁.trans hr₂).shape) .digest)
    rw [hdigest, ht''] at hh
    cases hh
  | @done t t' t'' output hd ho hx hh =>
    obtain ⟨⟨h₁, hr₁, hn⟩, hf, hres⟩ := h.rerun ha hc he hs hd
    have hout : f e.id source = .ok output := hres.symm.trans ho
    rw [hf, htranscript] at hx
    obtain ⟨h₂, hr₂, hkept⟩ := h₁.transcript_written ha hid hn hx
    rw [hdigest] at hh
    obtain ⟨h₃, hr₃, hseal⟩ := h₂.digest_written ha hid hin hout hkept hh
    exact served_of_some h₃ ((hr₁.trans hr₂).trans hr₃) hout hseal

/-- **A hit** is what a run would give, since the digest tells the sources apart. -/
theorem Coherent.hit_sealed (h : Coherent b ids f S w t) (he : e ∈ entriesOf b.layout ids)
    (hin : source ∈ S e.id) (hinj : Set.InjOn (sourceDigest e.id) (S e.id)) {text : List Char}
    (hl : lookUp t e (sourceDigest e.id source) = .ok (.hit, text)) :
    ∃ output, f e.id source = .ok output ∧ text = transcriptText e.id output ∧
      Sealed b.layout e.id source output t := by
  have hid := Layout.id_mem he
  obtain ⟨known, bytes, hh, htrim, hx, rfl⟩ := lookUp_hit hl
  rw [Layout.hashPath_eq he] at hh
  rw [Layout.transcriptPath_eq he] at hx
  obtain ⟨source', hin', output, ho, rfl, rfl⟩ := h.matched e.id hid known bytes hh hx
  have hsame : source' = source := hinj hin' hin ((kept_digest_iff e.id source' source).1 htrim)
  subst hsame
  exact ⟨output, ho, Utf8.decodeLossy_encode _, hh, hx⟩

/-- **A call** gives and leaves what it should, whether its transcript has been kept or not. -/
theorem Ensured.served {r : Except BuildError Transcript} (hr : Ensured b.runner e source s r s')
    (h : Coherent b ids f S w s.files) (ha : Arranged b ids w)
    (hc : b.runner.Computes b.layout ids f)
    (hinj : ∀ id ∈ ids, Set.InjOn (sourceDigest id) (S id)) (he : e ∈ entriesOf b.layout ids)
    (hs : s.files.read (b.layout.sourceOf e.id) = .ok source) :
    Served b ids f S w e.id source s.files (r.toOption.map Transcript.text) s'.files ∧
      ∀ x, r = .ok x → x.digest = sourceDigest e.id source := by
  have hid := Layout.id_mem he
  have hin : source ∈ S e.id := h.sources e.id hid source hs
  cases hr with
  | unread hl =>
    refine ⟨served_of_none h .refl fun hk => ?_, fun x hx => by cases hx⟩
    obtain ⟨found, hf⟩ := lookUp_of_places (fun k => Layout.kept_eq he k ▸ h.plain e.id hid k)
      (fun k => Layout.kept_eq he k ▸ hk k) (sourceDigest e.id source)
    rw [hf] at hl
    cases hl
  | hit hl =>
    obtain ⟨output, ho, rfl, hseal⟩ := h.hit_sealed he hin (hinj e.id hid) hl
    exact ⟨served_of_some h .refl ho hseal, fun x hx => by cases hx; rfl⟩
  | missed hne hl hr => exact ⟨hr.served h ha hc he hs, fun x hx => by cases hx⟩
  | renewed hne hl hr => exact ⟨hr.served h ha hc he hs, fun x hx => by cases hx; rfl⟩

end serving

end LiterateSite.Site
