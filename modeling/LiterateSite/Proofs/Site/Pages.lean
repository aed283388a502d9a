import LiterateSite.Proofs.Site.Refresh
import LiterateSite.Site.Build

/-!
# What a successful build has done

* `Session.loading`: a session after templates have been loaded. `sourceAt_loading`: **no template
  becomes another one when it is loaded**; `sourceAt_of_loaded`: **a template that has been loaded
  stays as it was**, whatever becomes of the files.
* `render_run`, `renderPage_run`: rendering reads the templates, and changes nothing else than what
  has been loaded.
* `Builder.Supplies`: templates that the builder has, or that have been in its directory at some
  time. `Session.Follows`, `Session.Follows.supplies`: what a session has loaded are such templates,
  and so are those that it reads.
* `MadePage`, `Makes`: a page and **how it is made**: the source is read, its transcript is called
  for, the page is rendered, and it is written.
* `MakesAll`: pages that are made one after the other. `MakesAll.template_stays`: a template that is
  there for a page is there for those that follow.
* `of_buildExample`, `of_pages`, `of_writeSheets`, `of_writeIndex`: what the parts of a build have
  done if they have succeeded.
* `Built`, `of_build`: **what a build has done if it has succeeded.**
-/

namespace LiterateSite.Site

open Files Text

/-! ## Templates that have been loaded -/

section loaded

variable {ts : Templates} {t u : Tree} {names : List (List Char)} {name source : List Char}

theorem lookup_sourcesOf (source? : Template.Source) (names : List (List Char))
    (name : List Char) : (source?.sourcesOf names).lookup name =
      if name ∈ names then (source? name).toOption else none := by
  induction names with
  | nil => rfl
  | cons first rest ih =>
    unfold Template.Source.sourcesOf at ih ⊢
    rw [List.filterMap_cons]
    by_cases hfirst : name = first
    · subst hfirst
      rw [if_pos List.mem_cons_self]
      cases hs : source? name with
      | error err =>
        have hnone : (Except.error err : Except Template.TemplateError (List Char)).toOption = none :=
          rfl
        rw [hs, hnone, ite_self] at ih
        exact ih
      | ok source => exact List.lookup_cons_self
    · have hmem : name ∈ first :: rest ↔ name ∈ rest := by
        rw [List.mem_cons, or_iff_right hfirst]
      simp only [hmem]
      cases source? first with
      | error err => exact ih
      | ok other =>
        show List.lookup name ((first, other) :: _) = _
        rw [List.lookup_cons, beq_eq_false_iff_ne.2 hfirst]
        exact ih

/-- The templates after some of them have been loaded. -/
def Templates.loading (ts : Templates) (t : Tree) (names : List (List Char)) : Templates :=
  { ts with loaded := ts.loaded ++ (ts.source t).sourcesOf names }

theorem Templates.source_of_known (h : ts.known? name = some source) :
    ts.source t name = .ok source := by
  unfold Templates.source
  rw [h]

/-- A template is the same if nothing else is known of its name. -/
theorem Templates.source_congr {more : List (List Char × List Char)}
    (h : ({ ts with loaded := more } : Templates).known? name = ts.known? name) :
    ({ ts with loaded := more } : Templates).source t name = ts.source t name := by
  unfold Templates.source
  rw [h]

theorem Templates.known?_append (ts : Templates) (more : List (List Char × List Char))
    (name : List Char) : ({ ts with loaded := ts.loaded ++ more } : Templates).known? name =
      (ts.known? name).or (more.lookup name) := by
  show (ts.builtin? name).or ((ts.loaded ++ more).lookup name) = _
  unfold Templates.known?
  rw [List.lookup_append, Option.or_assoc]

theorem Templates.known?_loading (ts : Templates) (t : Tree) (names : List (List Char))
    (name : List Char) : (ts.loading t names).known? name =
      (ts.known? name).or (if name ∈ names then (ts.source t name).toOption else none) := by
  rw [← lookup_sourcesOf]
  exact ts.known?_append _ name

/-- **No template becomes another one** when templates are loaded. -/
theorem Templates.source_loading (ts : Templates) (t : Tree) (names : List (List Char)) :
    (ts.loading t names).source t = ts.source t := by
  funext name
  have hknown := ts.known?_loading t names name
  cases hk : ts.known? name with
  | some source =>
    rw [hk, Option.some_or] at hknown
    exact source_congr (hknown.trans hk.symm)
  | none =>
    rw [hk, Option.none_or] at hknown
    by_cases hn : name ∈ names
    · rw [if_pos hn] at hknown
      cases hs : ts.source t name with
      | ok source =>
        rw [hs] at hknown
        exact source_of_known hknown
      | error err =>
        -- what cannot be read is not loaded
        rw [hs] at hknown
        exact (source_congr (hknown.trans hk.symm)).trans hs
    · rw [if_neg hn] at hknown
      exact source_congr (hknown.trans hk.symm)

/-- **A template that has been loaded stays as it was**, whatever becomes of the files. -/
theorem Templates.source_of_loaded (h : ts.source t name = .ok source) (hn : name ∈ names) :
    (ts.loading t names).source u name = .ok source := by
  have hknown := ts.known?_loading t names name
  rw [if_pos hn, h] at hknown
  cases hk : ts.known? name with
  | some known =>
    rw [hk] at hknown
    rw [source_of_known hk] at h
    rw [source_of_known hknown, h]
  | none =>
    rw [hk] at hknown
    exact source_of_known hknown

/-- **A template is taken from where it was**, or it is one of those that have been loaded. -/
theorem Templates.source_append (ts : Templates) (more : List (List Char × List Char)) (t : Tree)
    (name : List Char) :
    ({ ts with loaded := ts.loaded ++ more } : Templates).source t name = ts.source t name ∨
      ∃ source, (name, source) ∈ more ∧
        ({ ts with loaded := ts.loaded ++ more } : Templates).source t name = .ok source := by
  have hknown := ts.known?_append more name
  cases hk : ts.known? name with
  | some source =>
    rw [hk, Option.some_or] at hknown
    exact .inl (source_congr (hknown.trans hk.symm))
  | none =>
    rw [hk, Option.none_or] at hknown
    cases hm : more.lookup name with
    | some source =>
      rw [hm] at hknown
      obtain ⟨before, after, rfl, -⟩ := List.lookup_eq_some_iff.1 hm
      exact .inr ⟨source, List.mem_append_right _ List.mem_cons_self, source_of_known hknown⟩
    | none =>
      rw [hm] at hknown
      exact .inl (source_congr (hknown.trans hk.symm))

end loaded

variable {b : Builder} {theme : Highlight.Theme} {e : Entry} {s s' : Session}

section sessions

variable {names : List (List Char)} {name source : List Char}

/-- A session after templates have been loaded. -/
def Session.loading (s : Session) (b : Builder) (names : List (List Char)) : Session :=
  { s with loaded := s.loaded ++ (b.sourceAt s).sourcesOf names }

/-- **No template becomes another one when it is loaded.** -/
theorem sourceAt_loading (b : Builder) (s : Session) (names : List (List Char)) :
    b.sourceAt (s.loading b names) = b.sourceAt s :=
  (b.templatesAt s).source_loading s.files names

/-- **A template that has been loaded stays as it was.** -/
theorem sourceAt_of_loaded (h : b.sourceAt s name = .ok source) (hn : name ∈ names)
    (hs : s'.loaded = (s.loading b names).loaded) : b.sourceAt s' name = .ok source := by
  unfold Builder.sourceAt Builder.templatesAt
  rw [hs]
  exact Templates.source_of_loaded h hn

/-- **Rendering** takes the templates where the build stands, and changes nothing else than what has
been loaded. -/
theorem render_run (b : Builder)
    (page : Template.Source → Except Template.TemplateError Template.Rendering) (s : Session) :
    b.render page s = match page (b.sourceAt s) with
      | .error err => (.error (.render err), s)
      | .ok rendering => (.ok rendering.text, s.loading b rendering.loaded) := by
  unfold Builder.render
  rw [Building.bind_ok (show (get : Building Session) s = (.ok s, s) from rfl)]
  cases page (b.sourceAt s) with
  | error err => rfl
  | ok rendering => rfl

/-- Each template is one that the builder has, or one that has been in its directory. -/
def Builder.Supplies (b : Builder) (source : Template.Source) : Prop :=
  ∀ name, ∃ u, source name = b.templates.source u name

/-- What has been loaded are the templates that the builder has, and such as have been in its
directory. -/
def Session.Follows (s : Session) (b : Builder) : Prop :=
  ∃ more, s.loaded = b.templates.loaded ++ more ∧
    ∀ x ∈ more, ∃ u, b.templates.source u x.1 = .ok x.2

theorem Session.Follows.congr (h : s.Follows b) (hs : s'.loaded = s.loaded) : s'.Follows b := by
  unfold Session.Follows
  rw [hs]
  exact h

/-- A session that begins with the templates of the builder. -/
theorem follows_of_eq (h : s.loaded = b.templates.loaded) : s.Follows b :=
  ⟨[], by rw [h, List.append_nil], fun _ hx => absurd hx List.not_mem_nil⟩

theorem Session.Follows.supplies (h : s.Follows b) : b.Supplies (b.sourceAt s) := by
  intro name
  obtain ⟨more, hloaded, hmore⟩ := h
  unfold Builder.sourceAt Builder.templatesAt
  rw [hloaded]
  rcases b.templates.source_append more s.files name with he | ⟨source, hmem, he⟩
  · exact ⟨s.files, he⟩
  · obtain ⟨u, hu⟩ := hmore _ hmem
    exact ⟨u, he.trans hu.symm⟩

theorem Session.Follows.loading (h : s.Follows b) (names : List (List Char)) :
    (s.loading b names).Follows b := by
  have hsupplies := h.supplies
  obtain ⟨more, hloaded, hmore⟩ := h
  refine ⟨more ++ (b.sourceAt s).sourcesOf names, ?_, fun x hx => ?_⟩
  · show s.loaded ++ _ = _
    rw [hloaded, List.append_assoc]
  · rcases List.mem_append.1 hx with hx | hx
    · exact hmore x hx
    · unfold Template.Source.sourcesOf at hx
      obtain ⟨name, -, hname⟩ := List.mem_filterMap.1 hx
      obtain ⟨source, hsource, rfl⟩ := Option.map_eq_some_iff.1 hname
      obtain ⟨u, hu⟩ := hsupplies name
      exact ⟨u, hu.symm.trans (Tree.toOption_eq_some.1 hsource)⟩

end sessions

/-! ## Pages -/

/-- A page, with what it is made of. -/
structure MadePage where
  entry : Entry
  source : List UInt8
  transcript : Transcript
  html : List Char

namespace MadePage

/-- The example that the page shows. -/
def shown (b : Builder) (p : MadePage) : Example :=
  Example.ofEntry p.entry
    (Source.Example.read (Utf8.decodeLossy p.source) b.config.headerLines) p.transcript.digest

/-- The name of the page in the output. -/
def name (p : MadePage) : String := p.entry.id ++ ".html"

end MadePage

/-- **How a page is made**, beginning with the session `s` and ending with `s'`. There has been the
call for the transcript when the session is `mid`. -/
structure Makes (b : Builder) (theme : Highlight.Theme) (p : MadePage) (s mid s' : Session) :
    Prop where
  read : s.files.read p.entry.source = .ok p.source
  answered : ensureFresh b.runner p.entry p.source s = (.ok p.transcript, mid)
  rendered : b.renderPage theme (p.shown b) p.transcript.text mid =
    (.ok p.html, { mid with loaded := s'.loaded })
  written : mid.files.write (b.outputPath p.name) (Utf8.encode p.html) = .ok s'.files
  runs : s'.runs = mid.runs

/-- **Pages that are made one after the other.** -/
inductive MakesAll (b : Builder) (theme : Highlight.Theme) : Session → List MadePage → Session → Prop
  | nil {s : Session} : MakesAll b theme s [] s
  | cons {p : MadePage} {rest : List MadePage} {s mid s₁ s' : Session}
    (h : Makes b theme p s mid s₁) (hrest : MakesAll b theme s₁ rest s') :
    MakesAll b theme s (p :: rest) s'

variable {pages : List MadePage}

/-- **What has been run** while pages were made: the sources of those that were not cached. -/
theorem MakesAll.runs (hm : MakesAll b theme s pages s') : s'.runs = s.runs ++
    (pages.filter fun p => p.transcript.status.executed).map fun p => p.entry.source := by
  induction hm with
  | nil => rw [List.filter_nil, List.map_nil, List.append_nil]
  | cons hpage _ ih =>
    rw [ih, hpage.runs, (ensured hpage.answered).runs, List.append_assoc, List.filter_cons]
    split <;> rfl

/-! ## Parts of a build -/

namespace Builder

/-- The page of an example for its transcript, with some templates. -/
def pageOf (b : Builder) (theme : Highlight.Theme) (x : Example) (transcript : List Char)
    (source : Template.Source) : Except BuildError (List Char) :=
  match (b.look theme).transcript transcript with
  | .error err => .error (.highlight err)
  | .ok markup =>
    match (b.look theme).rows x markup with
    | .error err => .error (.highlight err)
    | .ok rows =>
      match Template.renderExample source ((b.look theme).examplePage x rows) with
      | .error err => .error (.render err)
      | .ok html => .ok html

end Builder

/-- **Rendering a page** takes the templates where the build stands, and changes nothing else than
what has been loaded. -/
theorem renderPage_run (b : Builder) (theme : Highlight.Theme) (x : Example)
    (transcript : List Char) (s : Session) : ∃ names, b.renderPage theme x transcript s =
      (b.pageOf theme x transcript (b.sourceAt s), s.loading b names) := by
  have hnone : s.loading b [] = s := by
    unfold Session.loading Template.Source.sourcesOf
    rw [List.filterMap_nil, List.append_nil]
  unfold Builder.renderPage Builder.pageOf
  cases (b.look theme).transcript transcript with
  | error err => exact ⟨[], congrArg _ hnone.symm⟩
  | ok markup =>
    simp only
    rw [Building.bind_ok (show (Building.orHighlight (.ok markup)) s = (.ok markup, s) from rfl)]
    cases (b.look theme).rows x markup with
    | error err => exact ⟨[], congrArg _ hnone.symm⟩
    | ok rows =>
      simp only
      rw [Building.bind_ok (show (Building.orHighlight (.ok rows)) s = (.ok rows, s) from rfl),
        render_run]
      unfold Template.renderExample Template.render Template.exampleRendering
      cases Template.rendering (b.sourceAt s).load Template.exampleName.toList
        ((b.look theme).examplePage x rows).scope with
      | error err => exact ⟨[], congrArg _ hnone.symm⟩
      | ok rendering => exact ⟨rendering.loaded, rfl⟩

/-- A page that has been rendered may have loaded templates. -/
theorem renderPage_session {x : Example} {text html : List Char}
    (h : b.renderPage theme x text s = (.ok html, s')) :
    b.pageOf theme x text (b.sourceAt s) = .ok html ∧ ∃ names, s' = s.loading b names := by
  obtain ⟨names, hrun⟩ := renderPage_run b theme x text s
  rw [h] at hrun
  obtain ⟨hpage, hs⟩ := Prod.mk.inj hrun
  exact ⟨hpage.symm, names, hs⟩

/-- **What a page is**, with the templates where the build stood when it was rendered. -/
theorem Makes.page {p : MadePage} {mid : Session} (h : Makes b theme p s mid s') :
    b.pageOf theme (p.shown b) p.transcript.text (b.sourceAt mid) = .ok p.html :=
  (renderPage_session h.rendered).1

/-- **What has been loaded when a page has been made**: what had been before, and the templates of
the page. -/
theorem Makes.loaded {p : MadePage} {mid : Session} (h : Makes b theme p s mid s') :
    ∃ names, s'.loaded = (mid.loading b names).loaded := by
  obtain ⟨-, names, hs⟩ := renderPage_session h.rendered
  have hloaded := congrArg Session.loaded hs
  exact ⟨names, hloaded⟩

/-- **A template that is known stays as it is** while pages are made, whatever becomes of the
files. -/
theorem MakesAll.template_stays (hm : MakesAll b theme s pages s') {name source : List Char}
    (h : (b.templatesAt s).known? name = some source) : b.sourceAt s' name = .ok source := by
  induction hm with
  | nil => exact Templates.source_of_known h
  | @cons p rest s mid s₁ s' hpage _ ih =>
    obtain ⟨names, hloaded⟩ := hpage.loaded
    have hmore := (b.templatesAt mid).known?_append ((b.sourceAt mid).sourcesOf names) name
    unfold Builder.templatesAt at h hmore ih
    rw [(ensured hpage.answered).loaded, h, Option.some_or] at hmore
    refine ih ?_
    rw [hloaded]
    unfold Session.loading
    rw [(ensured hpage.answered).loaded]
    exact hmore

/-- **A page is made of templates** that the builder has, or that have been in its directory. -/
theorem Makes.follows {p : MadePage} {mid : Session} (h : Makes b theme p s mid s')
    (hs : s.Follows b) : mid.Follows b ∧ s'.Follows b := by
  have hmid : mid.Follows b := hs.congr (ensured h.answered).loaded
  obtain ⟨names, hloaded⟩ := h.loaded
  exact ⟨hmid, (hmid.loading names).congr hloaded⟩

theorem MakesAll.follows (hm : MakesAll b theme s pages s') (hs : s.Follows b) :
    s'.Follows b := by
  induction hm with
  | nil => exact hs
  | cons hpage _ ih => exact ih (hpage.follows hs).2

/-- **Each page** is what some of these templates make of its example. -/
theorem MakesAll.rendered (hm : MakesAll b theme s pages s') (hs : s.Follows b) :
    ∀ p ∈ pages, ∃ source, b.Supplies source ∧
      b.pageOf theme (p.shown b) p.transcript.text source = .ok p.html := by
  induction hm with
  | nil => exact fun p hp => absurd hp List.not_mem_nil
  | @cons p rest s mid s₁ s' hpage _ ih =>
    obtain ⟨hmid, hs₁⟩ := hpage.follows hs
    intro q hq
    rcases List.mem_cons.1 hq with rfl | hq
    · exact ⟨b.sourceAt mid, hmid.supplies, hpage.page⟩
    · exact ih hs₁ q hq

/-- **The page of an example.** -/
theorem of_buildExample {built : Example × Status}
    (h : b.buildExample theme e s = (.ok built, s')) :
    ∃ p mid, p.entry = e ∧ Makes b theme p s mid s' ∧
      built = (p.shown b, p.transcript.status) := by
  unfold Builder.buildExample at h
  obtain ⟨source, s₁, h₁, h⟩ := Building.bind_eq_ok h
  obtain ⟨hread, rfl⟩ := Building.of_read h₁
  obtain ⟨x, mid, hx, h⟩ := Building.bind_eq_ok h
  obtain ⟨html, s₂, hhtml, h⟩ := Building.bind_eq_ok h
  obtain ⟨-, names, rfl⟩ := renderPage_session hhtml
  obtain ⟨_, s₃, hwrite, h⟩ := Building.bind_eq_ok h
  obtain ⟨hwritten, hruns, hloaded⟩ := Building.of_write hwrite
  rw [Building.bind_ok (Building.report_run _ _)] at h
  cases h
  refine ⟨⟨e, source, x, html⟩, mid, rfl, ⟨hread, hx, ?_, hwritten, hruns⟩, rfl⟩
  show b.renderPage theme _ x.text mid = (.ok html, { mid with loaded := s₃.loaded })
  rw [hloaded]
  exact hhtml

/-- **The pages**, one after the other. -/
theorem of_pages (entries : List Entry) : ∀ {s s' : Session} {built : List (Example × Status)},
    (entries.mapM (b.buildExample theme)) s = (.ok built, s') →
      ∃ pages, pages.map MadePage.entry = entries ∧ MakesAll b theme s pages s' ∧
        built = pages.map fun p => (p.shown b, p.transcript.status) := by
  induction entries with
  | nil =>
    intro s s' built h
    rw [List.mapM_nil, Building.pure_run] at h
    cases h
    exact ⟨[], rfl, .nil, rfl⟩
  | cons e rest ih =>
    intro s s' built h
    rw [List.mapM_cons] at h
    obtain ⟨x, s₁, hx, h⟩ := Building.bind_eq_ok h
    obtain ⟨xs, s₂, hxs, h⟩ := Building.bind_eq_ok h
    rw [Building.pure_run] at h
    cases h
    obtain ⟨p, mid, rfl, hp, rfl⟩ := of_buildExample hx
    obtain ⟨pages, rfl, hpages, rfl⟩ := ih hxs
    exact ⟨p :: pages, rfl, .cons hp hpages, rfl⟩

/-- **A style sheet** is made, and there may be a report of it. -/
theorem finishSheet_run (b : Builder) (name : String) (css : List Char) (s : Session) :
    ∃ s' : Session, s.Untouched s' ∧
      b.finishSheet name css s = (.ok (Style.finish css b.config.minify).1, s') := by
  unfold Builder.finishSheet
  cases Style.finish css b.config.minify with
  | mk css' kept =>
    cases kept with
    | true => exact ⟨s.reporting (.keptStyleSheet name), s.untouched_reporting _, rfl⟩
    | false => exact ⟨s, .refl s, rfl⟩

/-- The style sheets, written one after the other. -/
theorem writeSheets_run (b : Builder) (theme : Highlight.Theme) (s : Session) :
    ∃ s' : Session, s.Untouched s' ∧
      b.writeSheets theme s = match b.highlighter.stylesheet theme with
        | .error err => (.error (.highlight err), s')
        | .ok code => (do
            Building.write (b.outputPath "site.css")
              (Utf8.encode (Style.finish Style.layout b.config.minify).1)
            Building.write (b.outputPath "code.css")
              (Utf8.encode (Style.finish code.toList b.config.minify).1)) s' := by
  obtain ⟨s₁, hs₁, h₁⟩ := finishSheet_run b "site.css" Style.layout s
  unfold Builder.writeSheets
  rw [Building.bind_ok h₁]
  cases b.highlighter.stylesheet theme with
  | error err => exact ⟨s₁, hs₁, rfl⟩
  | ok code =>
    obtain ⟨s₂, hs₂, h₂⟩ := finishSheet_run b "code.css" code.toList s₁
    refine ⟨s₂, hs₁.trans hs₂, ?_⟩
    rw [Building.bind_ok (show (Building.orHighlight (.ok code)) s₁ = (.ok code, s₁) from rfl),
      Building.bind_ok h₂]

/-- **The style sheets that have been written** are those of the theme, and nothing has been run. -/
theorem of_writeSheets (h : b.writeSheets theme s = (.ok (), s')) : s'.runs = s.runs ∧
    ∃ code t, b.highlighter.stylesheet theme = .ok code ∧
      s.files.write (b.outputPath "site.css")
        (Utf8.encode (Style.finish Style.layout b.config.minify).1) = .ok t ∧
      t.write (b.outputPath "code.css")
        (Utf8.encode (Style.finish code.toList b.config.minify).1) = .ok s'.files := by
  obtain ⟨s₁, hs₁, hsheets⟩ := writeSheets_run b theme s
  rw [h] at hsheets
  cases hcode : b.highlighter.stylesheet theme with
  | error err => rw [hcode] at hsheets; cases hsheets
  | ok code =>
    rw [hcode] at hsheets
    obtain ⟨_, s₂, h₁, h₂⟩ := Building.bind_eq_ok hsheets.symm
    obtain ⟨hsite, hr₁, -⟩ := Building.of_write h₁
    obtain ⟨hcss, hr₂, -⟩ := Building.of_write h₂
    rw [hs₁.files] at hsite
    exact ⟨hr₂.trans (hr₁.trans hs₁.runs), code, s₂.files, rfl, hsite, hcss⟩

/-- **Before the first page** the style sheets have been written, and the templates are those of the
builder. -/
theorem of_takeTemplates (h : (b.writeSheets theme >>= fun _ => b.takeTemplates) s =
    (.ok (), s')) : s'.loaded = b.templates.loaded ∧ s'.runs = s.runs ∧
      ∃ code t, b.highlighter.stylesheet theme = .ok code ∧
        s.files.write (b.outputPath "site.css")
          (Utf8.encode (Style.finish Style.layout b.config.minify).1) = .ok t ∧
        t.write (b.outputPath "code.css")
          (Utf8.encode (Style.finish code.toList b.config.minify).1) = .ok s'.files := by
  obtain ⟨_, s₁, h₁, h⟩ := Building.bind_eq_ok h
  have hsheets := of_writeSheets h₁
  cases h
  exact ⟨rfl, hsheets⟩

/-- **Writing the index**: it cannot be rendered; it cannot be written; or it is written. -/
theorem writeIndex_run (b : Builder) (examples : List Example) (s : Session) : ∃ names,
    b.writeIndex examples s =
      match Template.renderIndex (b.sourceAt s) b.config.title.toList
        (examples.map Example.indexEntry) with
      | .error err => (.error (.render err), s)
      | .ok html =>
        match s.files.write (b.outputPath "index.html") (Utf8.encode html) with
        | .error err => (.error (.io (b.outputPath "index.html") err), s.loading b names)
        | .ok t => (.ok (), { s.loading b names with files := t }) := by
  unfold Builder.writeIndex Template.renderIndex Template.render
  have hrender := render_run b
    (Template.indexRendering · b.config.title.toList (examples.map Example.indexEntry)) s
  unfold Template.indexRendering at hrender ⊢
  cases hr : Template.rendering (b.sourceAt s).load Template.indexName.toList
    (Template.indexScope b.config.title.toList (examples.map Example.indexEntry)) with
  | error err =>
    rw [hr] at hrender
    exact ⟨[], Building.bind_error hrender⟩
  | ok rendering =>
    rw [hr] at hrender
    refine ⟨rendering.loaded, ?_⟩
    rw [Building.bind_ok hrender]
    show _ = match s.files.write (b.outputPath "index.html") (Utf8.encode rendering.text) with
      | .error err => _
      | .ok t => _
    cases hw : s.files.write (b.outputPath "index.html") (Utf8.encode rendering.text) with
    | error err => exact Building.write_error (s := s.loading b rendering.loaded) hw
    | ok t => exact Building.write_ok (s := s.loading b rendering.loaded) hw

/-- **The index** is rendered with the templates where the build stands, and written. -/
theorem of_writeIndex {examples : List Example} (h : b.writeIndex examples s = (.ok (), s')) :
    s'.runs = s.runs ∧ ∃ html,
      Template.renderIndex (b.sourceAt s) b.config.title.toList
        (examples.map Example.indexEntry) = .ok html ∧
      s.files.write (b.outputPath "index.html") (Utf8.encode html) = .ok s'.files := by
  obtain ⟨names, hrun⟩ := writeIndex_run b examples s
  rw [h] at hrun
  split at hrun
  · cases hrun
  · next html hrender =>
    split at hrun
    · cases hrun
    · next hw =>
      cases hrun
      exact ⟨rfl, html, hrender, hw⟩

/-! ## A build -/

/-- **What a build has done if it has succeeded.** The style sheets have been written when the
session is `start`, and the pages when it is `last`. A template that is loaded in between is not
read again. -/
structure Built (b : Builder) (s : Session) (r : BuildResult) (s' : Session)
    (theme : Highlight.Theme) (entries : List Entry) (pages : List MadePage) (html : List Char)
    (start last : Session) : Prop where
  theme_found : Highlight.Theme.find b.config.theme = .ok theme
  catalog : (catalog b.config.toLayout s).1 = .ok entries
  sheets : (b.writeSheets theme >>= fun _ => b.takeTemplates)
    { (Site.catalog b.config.toLayout s).2 with
      files := ((Site.catalog b.config.toLayout s).2.files.createDirAll b.config.output).1 } =
        (.ok (), start)
  entries_eq : pages.map MadePage.entry = entries
  pages_made : MakesAll b theme start pages last
  index_rendered : Template.renderIndex (b.sourceAt last) b.config.title.toList
    (pages.map fun p => (p.shown b).indexEntry) = .ok html
  index_written : last.files.write (b.outputPath "index.html") (Utf8.encode html) = .ok s'.files
  runs : s'.runs = last.runs
  result : r = { pages := entries.length
                 executed := pages.countP fun p => p.transcript.status.executed
                 cached := entries.length - pages.countP fun p => p.transcript.status.executed
                 output := b.config.output }

/-- **A build that has succeeded.** -/
theorem of_build {r : BuildResult} (h : b.build s = (.ok r, s')) :
    ∃ theme entries pages html start last,
      Built b s r s' theme entries pages html start last := by
  unfold Builder.build at h
  obtain ⟨theme, s₁, h₁, h⟩ := Building.bind_eq_ok h
  obtain ⟨htheme, rfl⟩ := Building.of_orHighlight h₁
  obtain ⟨entries, s₂, hcatalog, h⟩ := Building.bind_eq_ok h
  obtain ⟨_, s₃, hdir, h⟩ := Building.bind_eq_ok h
  obtain rfl := Building.of_createDirAll hdir
  obtain ⟨_, written, hwritten, h⟩ := Building.bind_eq_ok h
  obtain ⟨_, start, htake, h⟩ := Building.bind_eq_ok h
  have hsheets := (Building.bind_ok (f := fun _ => b.takeTemplates) hwritten).trans htake
  obtain ⟨built, last, hpages, h⟩ := Building.bind_eq_ok h
  obtain ⟨pages, hentries, hmade, rfl⟩ := of_pages entries hpages
  obtain ⟨_, s₄, hindex, h⟩ := Building.bind_eq_ok h
  obtain ⟨hruns, html, hrender, hwrite⟩ := of_writeIndex hindex
  rw [Building.bind_ok (Building.report_run _ _), Building.pure_run] at h
  cases h
  refine ⟨theme, entries, pages, html, start, last, htheme, ?_, ?_, hentries, hmade, ?_, hwrite,
    hruns, ?_⟩
  · rw [hcatalog]
  · rw [hcatalog]
    exact hsheets
  · rw [List.map_map, List.map_map] at hrender
    exact hrender
  · rw [List.countP_map]
    rfl

end LiterateSite.Site
