import LiterateSite.Proofs.Site.Twins

/-!
# Builds of trees that differ in kept files

* `Builder.sheets`, `Builder.made`, `Builder.products`: what a build writes.
* `lockstep_catalog`, `lockstep_writeSheets`, `lockstep_buildExample`, `lockstep_writeIndex`: the
  parts of a build on such trees.
* `lockstep_build`: **both builds fail, or both succeed and leave the same files.**
* `Coherent.build`: a build keeps the invariant, whether it succeeds or not.
-/

namespace LiterateSite.Site

open Files Files.Tree Text

namespace Builder

/-- The style sheets. -/
def sheets (b : Builder) : Set Path := {b.outputPath "site.css", b.outputPath "code.css"}

/-- The page and the kept files of an id. -/
def made (b : Builder) (id : String) : Set Path :=
  insert (b.outputPath (id ++ ".html")) (Set.range (b.layout.keptOf id))

/-- **What a build writes.** -/
def products (b : Builder) (ids : List String) : Set Path :=
  {p | p = b.outputPath "index.html" ∨ p ∈ b.sheets ∨ ∃ id ∈ ids, p ∈ b.made id}

/-- What has been written before the pages of the ids that are left. -/
def written (b : Builder) (ids rest : List String) : Set Path :=
  {p | p ∈ b.sheets ∨ ∃ id ∈ ids, id ∉ rest ∧ p ∈ b.made id}

end Builder

variable {b : Builder} {ids rest : List String}
  {f : String → List UInt8 → Except RunError (List UInt8)} {S : String → Set (List UInt8)}
  {w : Location} {held held' : Set Path} {t u : Tree} {theme : Highlight.Theme}

namespace Twins

variable (h : Twins b ids f S w rest held t u)

include h

theorem coherent : Coherent b ids f S w t ∧ Coherent b ids f S w u := ⟨h.left, h.right⟩

theorem mono (hsub : held' ⊆ held) : Twins b ids f S w rest held' t u :=
  ⟨h.left, h.right, h.shape, h.agree, fun p hp => h.held p (hsub hp)⟩

end Twins

theorem plainName_page {id : String} (h : Path.PlainName id.toList) :
    Path.PlainName (id ++ ".html").toList := by
  have hdot : id ++ ".html" = id ++ "." ++ "html" := by rw [String.append_assoc]; rfl
  rw [hdot]
  exact Layout.plainName_dotted h (by decide)

/-! ## The parts of a build -/

/-- **The catalog** is the same, and leaves the files as they are. -/
theorem lockstep_catalog : Lockstep (Coherent b ids f S w) (Twins b ids f S w rest held)
    (catalog b.layout) (catalog b.layout) fun x y t u =>
      (x = entriesOf b.layout ids ∧ y = entriesOf b.layout ids) ∧
        Twins b ids f S w rest held t u := by
  intro s u h hl
  obtain ⟨s', hs', hrun⟩ := catalog_run b.layout s
  obtain ⟨u', hu', hrun'⟩ := catalog_run b.layout u
  rw [h.left.enumerated] at hrun
  rw [h.right.enumerated] at hrun'
  rw [hrun, hrun']
  refine .done ⟨⟨rfl, rfl⟩, ?_⟩ (hs'.loaded.trans (hl.trans hu'.loaded.symm))
  rw [hs'.files, hu'.files]
  exact h

theorem lockstep_finishSheet {I : Tree → Prop} {P : Tree → Tree → Prop} (name : String)
    (css : List Char) : Lockstep I P (b.finishSheet name css) (b.finishSheet name css)
      fun x y t u => x = y ∧ P t u := by
  unfold Builder.finishSheet
  cases Style.finish css b.config.minify with
  | mk css kept =>
    have hlast : Lockstep I P (pure css : Building (List Char)) (pure css) fun x y t u =>
        x = y ∧ P t u := lockstep_pure fun t u hp => ⟨rfl, hp⟩
    cases kept with
    | true => exact (lockstep_report _ _).bind fun _ _ => hlast
    | false => exact hlast

/-- **What is rendered** depends on the templates only, which are the same. -/
theorem lockstep_rendered (hd : TemplatesApart b ids w) (hsub : ∀ id ∈ rest, id ∈ ids)
    (page : Template.Source → Except Template.TemplateError Template.Rendering) :
    Lockstep (Coherent b ids f S w) (Twins b ids f S w rest held) (b.render page) (b.render page)
      fun x y t u => x = y ∧ Twins b ids f S w rest held t u :=
  lockstep_render (fun _ _ h => h.coherent) (fun _ _ _ h hts => h.templates_eq hd hsub hts) page

theorem lockstep_renderPage (hd : TemplatesApart b ids w)
    (hsub : ∀ id ∈ rest, id ∈ ids) (x : Example) (transcript : List Char) :
    Lockstep (Coherent b ids f S w) (Twins b ids f S w rest held)
      (b.renderPage theme x transcript) (b.renderPage theme x transcript) fun html html' t u =>
        html = html' ∧ Twins b ids f S w rest held t u := by
  unfold Builder.renderPage
  refine (lockstep_orHighlight (fun _ _ h => h.coherent) _).bind fun markup markup' => .of_and ?_
  rintro rfl
  refine (lockstep_orHighlight (fun _ _ h => h.coherent) _).bind fun rows rows' => .of_and ?_
  rintro rfl
  exact lockstep_rendered hd hsub _

/-- **The style sheets.** -/
theorem lockstep_writeSheets (ha : Arranged b ids w) : Lockstep (Coherent b ids f S w)
    (Twins b ids f S w rest ∅) (b.writeSheets theme) (b.writeSheets theme) fun _ _ =>
      Twins b ids f S w rest b.sheets := by
  unfold Builder.writeSheets
  refine (lockstep_finishSheet _ _).bind fun site site' => .of_and ?_
  rintro rfl
  refine (lockstep_orHighlight (fun _ _ h => h.coherent) _).bind fun code code' => .of_and ?_
  rintro rfl
  refine (lockstep_finishSheet _ _).bind fun css css' => .of_and ?_
  rintro rfl
  refine (lockstep_writeOutput ha (by decide) _).bind fun _ _ => ?_
  refine (lockstep_writeOutput ha (by decide) _).mono (fun _ _ h => h) fun _ _ t u h => ?_
  refine h.mono fun p hp => ?_
  rcases hp with rfl | rfl
  · exact .inr (.inl rfl)
  · exact .inl rfl

variable (ha : Arranged b ids w) (hd : TemplatesApart b ids w)
  (hc : b.runner.Computes b.layout ids f) (hinj : ∀ id ∈ ids, Set.InjOn (sourceDigest id) (S id))

include ha hd

/-- **The index.** -/
theorem lockstep_writeIndex (hsub : ∀ id ∈ rest, id ∈ ids) (examples : List Example) :
    Lockstep (Coherent b ids f S w) (Twins b ids f S w rest held) (b.writeIndex examples)
      (b.writeIndex examples) fun _ _ =>
        Twins b ids f S w rest (insert (b.outputPath "index.html") held) := by
  unfold Builder.writeIndex
  refine (lockstep_rendered hd hsub _).bind fun html html' => .of_and ?_
  rintro rfl
  exact lockstep_writeOutput ha (by decide) _

include hc hinj

/-- **The page of an example**: it is the same, whether the transcript has been kept or not. -/
theorem lockstep_buildExample {e : Entry} (he : e ∈ entriesOf b.layout ids)
    (hsub : ∀ id ∈ rest, id ∈ ids) : Lockstep (Coherent b ids f S w)
      (Twins b ids f S w (e.id :: rest) held) (b.buildExample theme e) (b.buildExample theme e)
      fun x y t u => x.1 = y.1 ∧ Twins b ids f S w rest (held ∪ b.made e.id) t u := by
  have hid := Layout.id_mem he
  have hsource : e.source = b.layout.sourceOf e.id := Layout.source_eq he
  unfold Builder.buildExample
  refine (lockstep_read (fun _ _ h => h.coherent) fun t u h => ?_).bind fun bytes bytes' =>
    .of_and ?_
  · rw [hsource]
    exact h.read_source ha hid
  rintro rfl
  refine (lockstep_ensureFresh ha hc hinj he).bind fun x y => .of_and ?_
  rintro ⟨htext, hdigest⟩
  rw [htext, hdigest]
  refine (lockstep_renderPage hd hsub _ _).bind fun html html' => .of_and ?_
  rintro rfl
  refine (lockstep_writeOutput ha (plainName_page (ha.plain e.id hid)) _).bind fun _ _ => ?_
  refine (lockstep_report _ _).bind fun _ _ => ?_
  refine lockstep_pure fun t u h => ⟨rfl, h.mono fun p hp => ?_⟩
  rcases hp with hp | rfl | hp
  · exact .inr (.inl hp)
  · exact .inl rfl
  · exact .inr (.inr hp)

/-- **The pages**, one after the other. -/
theorem lockstep_pages : Lockstep (Coherent b ids f S w) (Twins b ids f S w ids b.sheets)
    ((entriesOf b.layout ids).mapM (b.buildExample theme))
    ((entriesOf b.layout ids).mapM (b.buildExample theme)) fun xs ys t u =>
      List.Forall₂ (fun x y => x.1 = y.1) xs ys ∧
        Twins b ids f S w [] (b.written ids []) t u := by
  have hpages := Lockstep.mapM (I := Coherent b ids f S w) (f := b.buildExample theme)
    (g := b.buildExample theme) (fun x y => x.1 = y.1)
    (fun rest => Twins b ids f S w (rest.map Entry.id) (b.written ids (rest.map Entry.id)))
    (entriesOf b.layout ids) fun e later hsuffix => ?_
  · refine hpages.mono (fun t u h => ?_) fun _ _ _ _ h => h
    rw [show (entriesOf b.layout ids).map Entry.id = ids from Layout.ids_entriesFrom ids none]
    refine h.mono fun p hp => ?_
    rcases hp with hp | ⟨id, hid, hnot, -⟩
    · exact hp
    · exact absurd hid hnot
  · have hmem : ∀ x ∈ e :: later, x ∈ entriesOf b.layout ids := fun x hx => hsuffix.subset hx
    have he := hmem e List.mem_cons_self
    have hsub : ∀ id ∈ later.map Entry.id, id ∈ ids := by
      intro id hid
      obtain ⟨x, hx, rfl⟩ := List.mem_map.1 hid
      exact Layout.id_mem (hmem x (List.mem_cons_of_mem _ hx))
    refine (lockstep_buildExample ha hd hc hinj he hsub).mono (fun _ _ h => h)
      fun x y t u h => ⟨h.1, h.2.mono fun p hp => ?_⟩
    -- what has been written is what had been, and what belongs to this id
    rcases hp with hp | ⟨id, hid, hnot, hp⟩
    · exact .inl (.inl hp)
    · by_cases hide : id = e.id
      · exact .inr (hide ▸ hp)
      · refine .inl (.inr ⟨id, hid, fun hin => ?_, hp⟩)
        rw [List.map_cons] at hin
        rcases List.mem_cons.1 hin with h | h
        · exact hide h
        · exact hnot h

/-- **Builds of trees that differ in kept files** fail both, or succeed both and leave the same
files. -/
theorem lockstep_build : Lockstep (Coherent b ids f S w) (Twins b ids f S w ids ∅) b.build b.build
    fun _ _ => Twins b ids f S w [] (b.products ids) := by
  unfold Builder.build
  refine (lockstep_orHighlight (fun _ _ h => h.coherent) _).bind fun theme theme' => .of_and ?_
  rintro rfl
  refine lockstep_catalog.bind fun entries entries' => .of_and ?_
  rintro ⟨rfl, rfl⟩
  refine (lockstep_createOutput ha).bind fun _ _ => ?_
  refine (lockstep_writeSheets ha).bind fun _ _ => ?_
  refine (lockstep_takeTemplates b).bind fun _ _ => ?_
  refine (lockstep_pages ha hd hc hinj).bind fun built built' => .of_and fun hbuilt => ?_
  have hsame : built.map (·.1) = built'.map (·.1) := by
    rw [← List.forall₂_eq_eq_eq, List.forall₂_map_left_iff, List.forall₂_map_right_iff]
    exact hbuilt
  rw [hsame]
  refine (lockstep_writeIndex ha hd (fun _ h => absurd h List.not_mem_nil) _).bind fun _ _ => ?_
  refine (lockstep_report _ _).bind fun _ _ => ?_
  refine lockstep_pure fun t u h => h.mono fun p hp => ?_
  rcases hp with rfl | hp | ⟨id, hid, hp⟩
  · exact .inl rfl
  · exact .inr (.inl hp)
  · exact .inr (.inr ⟨id, hid, List.not_mem_nil, hp⟩)

/-- **A build keeps the invariant**, whether it succeeds or not. -/
theorem Coherent.build {s : Session} (h : Coherent b ids f S w s.files) :
    Coherent b ids f S w (b.build s).2.files := by
  have htwins : Twins b ids f S w ids ∅ s.files s.files :=
    ⟨h, h, SameShape.refl _, ⟨rfl, fun _ _ => rfl⟩, fun p hp => absurd hp (Set.notMem_empty p)⟩
  exact (lockstep_build ha hd hc hinj s s htwins rfl).invariant fun _ _ _ _ h => h.left

end LiterateSite.Site
