import LiterateSite.Proofs.CommandLine.Pieces

/-!
# A project to begin with

What writing a new project does to the files that are there, whether it goes through or not.

* `projectPieces`, `projectFiles`: the pieces and files of a new project (`scaffold_eq`).
* `Descends`, `Nested`: paths that lead downwards, and trees in which what is there is in
  directories.
* `placed_hello`, `placed_template`: the files of the project in a tree without links.
* `initProject_keeps`: **a new project keeps all that is there**, and writing it again changes
  nothing.
-/

namespace LiterateSite.CommandLine

open Files Files.Tree Site

variable {s s' : Session} {t : Tree} {p config : Path} {content : List Char}

/-! ## The project -/

def root : Path := Path.ofString "."

def helloDirectory : Path := (root.join (Path.ofString "examples")).join (Path.ofString "hello")

def templatesDirectory : Path := root.join (Path.ofString "templates")

/-- **The pieces of a new project**, in their order. -/
def projectPieces (config : Path) : List Piece :=
  .file (root.join config) newSettings ::
    .directory helloDirectory .createExamples ::
    .file (helloDirectory.join (Path.ofString "hello.js")) newExample ::
    .directory templatesDirectory .createTemplates ::
    Template.builtins.map fun (name, source) =>
      .file (templatesDirectory.join (Path.ofString name)) source

/-- The file that is written for a piece. -/
def Piece.file? : Piece → Option (Path × List Char)
  | file p content => some (p, content)
  | directory _ _ => none

/-- **The files of a new project**, with their contents. -/
def projectFiles (config : Path) : List (Path × List Char) :=
  (projectPieces config).filterMap Piece.file?

theorem scaffold_eq (config : Path) :
    scaffold config false = (projectPieces config).forM Piece.run := rfl

/-- Whatever is in the tree is in a directory of it. -/
def Nested (t : Tree) : Prop := ∀ n l, t.get? (n :: l) ≠ none → t.get? l = some .directory

theorem Nested.of_suffix {l k : Location} (h : Nested t) (hk : k <:+ l) (hl : t.get? l ≠ none) :
    t.get? k ≠ none := by
  induction l with
  | nil => rwa [List.suffix_nil.1 hk]
  | cons n l ih =>
    rcases List.suffix_cons_iff.1 hk with rfl | hk
    · exact hl
    · refine ih hk ?_
      rw [h n l hl]
      exact Option.some_ne_none _

/-- It is enough to look at what is in the tree. -/
theorem nested_of_entries (h : ∀ x ∈ t.entries, t.get? x.1.tail = some .directory) : Nested t := by
  intro n l hl
  have hsome : (t.entries.lookup (n :: l)).isSome = true := Option.isSome_iff_ne_none.2 hl
  obtain ⟨x, hx, he⟩ := List.lookup_isSome_iff.1 hsome
  have hdir := h x hx
  rw [← eq_of_beq he] at hdir
  exact hdir

theorem plain_projectPieces (config : Path) : ∀ piece ∈ projectPieces config, piece.Plain := by
  have hhello : (Piece.directory helloDirectory .createExamples).Plain := by
    unfold Piece.Plain
    decide
  have htemplates : (Piece.directory templatesDirectory .createTemplates).Plain := by
    unfold Piece.Plain
    decide
  intro piece hmem
  simp only [projectPieces, List.mem_cons, List.mem_map] at hmem
  rcases hmem with rfl | rfl | rfl | rfl | ⟨x, -, rfl⟩
  · trivial
  · exact hhello
  · trivial
  · exact htemplates
  · trivial

/-- The files of the project beside the settings. -/
def sampleFiles : List (Path × List Char) :=
  (helloDirectory.join (Path.ofString "hello.js"), newExample) ::
    Template.builtins.map fun (name, source) =>
      (templatesDirectory.join (Path.ofString name), source)

theorem projectFiles_eq (config : Path) :
    projectFiles config = (root.join config, newSettings) :: sampleFiles := rfl

/-- The path leads only downwards from where it begins. -/
def Descends (w : Location) (p : Path) : Prop := ∀ k ∈ p.way w, k <:+ p.goal w

theorem Descends.join {w : Location} {cs : List Char} (h : Descends w p)
    (hcs : Path.PlainName cs) : Descends w (p.join ⟨cs⟩) := by
  intro k hk
  rw [Path.goal_join_plain hcs]
  rcases (Path.way_join_plain hcs).1 hk with hk | rfl
  · exact (h k hk).trans (List.suffix_cons _ _)
  · exact List.suffix_rfl

variable {w : Location}

theorem way_hello (w : Location) : helloDirectory.way w = [w, w, .text "examples".toList :: w,
    .text "hello".toList :: .text "examples".toList :: w] := rfl

theorem way_templates (w : Location) :
    templatesDirectory.way w = [w, w, .text "templates".toList :: w] := rfl

theorem goal_hello (w : Location) :
    helloDirectory.goal w = .text "hello".toList :: .text "examples".toList :: w := rfl

theorem goal_helloFile (w : Location) :
    (helloDirectory.join (Path.ofString "hello.js")).goal w =
      .text "hello.js".toList :: helloDirectory.goal w := rfl

theorem goal_templates (w : Location) :
    templatesDirectory.goal w = .text "templates".toList :: w := rfl

theorem descends_hello (w : Location) : Descends w helloDirectory := by
  intro k hk
  rw [way_hello] at hk
  rw [goal_hello]
  have hup : w <:+ Name.text "hello".toList :: .text "examples".toList :: w :=
    (List.suffix_cons _ _).trans (List.suffix_cons _ _)
  simp only [List.mem_cons, List.not_mem_nil, or_false] at hk
  rcases hk with rfl | rfl | rfl | rfl
  · exact hup
  · exact hup
  · exact List.suffix_cons _ _
  · exact List.suffix_rfl

theorem descends_templates (w : Location) : Descends w templatesDirectory := by
  intro k hk
  rw [way_templates] at hk
  rw [goal_templates]
  simp only [List.mem_cons, List.not_mem_nil, or_false] at hk
  rcases hk with rfl | rfl | rfl
  · exact List.suffix_cons _ _
  · exact List.suffix_cons _ _
  · exact List.suffix_rfl

/-- A place two steps further down is not among those up to one step down. -/
theorem ne_below (a b : Name) (w : Location) : a :: b :: w ≠ w := by
  intro h
  have hlength := congrArg List.length h
  simp only [List.length_cons] at hlength
  omega

/-- The place of the example is not one that its directory needs. -/
theorem helloFile_not_made : .text "hello.js".toList :: helloDirectory.goal w ∉
    helloDirectory.way w := by
  rw [way_hello, goal_hello]
  simp only [List.mem_cons, List.not_mem_nil, or_false, not_or]
  refine ⟨?_, ?_, ?_, ?_⟩
  all_goals
    intro h
    have hlength := congrArg List.length h
    simp only [List.length_cons] at hlength
    omega

theorem template_not_made {cs : List Char} : .text cs :: templatesDirectory.goal w ∉
    helloDirectory.way w ∧ .text cs :: templatesDirectory.goal w ∉ templatesDirectory.way w := by
  rw [way_hello, way_templates, goal_templates]
  simp only [List.mem_cons, List.not_mem_nil, or_false, not_or]
  have hone : Name.text cs :: .text "templates".toList :: w ≠ .text "examples".toList :: w := by
    intro h
    exact absurd (congrArg List.length h) (by simp)
  refine ⟨⟨ne_below _ _ w, ne_below _ _ w, hone, ?_⟩, ne_below _ _ w, ne_below _ _ w, ?_⟩
  · intro h
    exact absurd (List.cons.inj (List.cons.inj h).2).1 (by decide)
  · intro h
    exact absurd (congrArg List.length h) (by simp)

/-- What is at the end of a path that leads downwards is in directories. -/
theorem Nested.way (hn : Nested t) (hp : Descends w p) (h : t.get? (p.goal w) ≠ none) :
    ∀ k ∈ p.way w, t.get? k ≠ none := fun k hk => hn.of_suffix (hp k hk) h

theorem mem_files {pieces : List Piece} :
    (p, content) ∈ pieces.filterMap Piece.file? ↔ .file p content ∈ pieces := by
  rw [List.mem_filterMap]
  constructor
  · rintro ⟨piece, hmem, hfile⟩
    cases piece with
    | file q c => cases hfile; exact hmem
    | directory q e => cases hfile
  · intro hmem
    exact ⟨.file p content, hmem, rfl⟩

section project

variable (hl : s.files.Linkless) (hn : Nested s.files)
  (h : (projectPieces config).forM Piece.run s = (.ok (), s'))

include hl hn h

/-- **The example** is as it was, or it has got its content. -/
theorem placed_hello (hconfig : (root.join config).goal s.files.workDir ≠
      (helloDirectory.join (Path.ofString "hello.js")).goal s.files.workDir) :
    Placed s.files s'.files (helloDirectory.join (Path.ofString "hello.js")) newExample := by
  have hplain : Path.PlainName "hello.js".toList := by decide
  have hdown := (descends_hello s.files.workDir).join hplain
  refine placed_of_split [.file (root.join config) newSettings,
    .directory helloDirectory .createExamples] hl h (hn.way hdown) ?_ ?_
  · intro q e hmem
    simp only [List.mem_cons, Piece.directory.injEq, reduceCtorEq, List.not_mem_nil, or_false,
      false_or] at hmem
    rw [hmem.1, goal_helloFile]
    exact helloFile_not_made
  · rintro x ⟨content, hmem, -⟩
    simp only [List.mem_cons, Piece.file.injEq, reduceCtorEq, List.not_mem_nil, or_false] at hmem
    rw [hmem.1]
    exact hconfig

/-- **A template** is as it was, or it has got its content. -/
theorem placed_template {name : String} {source : List Char}
    (hmem : (name, source) ∈ Template.builtins)
    (hconfig : (root.join config).goal s.files.workDir ≠
      (templatesDirectory.join (Path.ofString name)).goal s.files.workDir) :
    Placed s.files s'.files (templatesDirectory.join (Path.ofString name)) source := by
  have hplain : ∀ x ∈ Template.builtins, Path.PlainName x.1.toList := by decide
  have hgoal : ∀ x ∈ Template.builtins,
      (templatesDirectory.join (Path.ofString x.1)).goal s.files.workDir =
        .text x.1.toList :: templatesDirectory.goal s.files.workDir :=
    fun x hx => Path.goal_join_plain (hplain x hx)
  have hdown := (descends_templates s.files.workDir).join (hplain _ hmem)
  obtain ⟨front, back, hsplit⟩ := List.append_of_mem hmem
  let file : String × List Char → Piece := fun x =>
    .file (templatesDirectory.join (Path.ofString x.1)) x.2
  have hpieces : projectPieces config =
      ([.file (root.join config) newSettings, .directory helloDirectory .createExamples,
        .file (helloDirectory.join (Path.ofString "hello.js")) newExample,
        .directory templatesDirectory .createTemplates] ++ front.map file) ++
      .file (templatesDirectory.join (Path.ofString name)) source :: back.map file := by
    have hall : projectPieces config =
        [.file (root.join config) newSettings, .directory helloDirectory .createExamples,
          .file (helloDirectory.join (Path.ofString "hello.js")) newExample,
          .directory templatesDirectory .createTemplates] ++ Template.builtins.map file := rfl
    rw [hall, hsplit, List.map_append, List.map_cons, List.append_assoc]
  rw [hpieces] at h
  refine placed_of_split _ hl h (hn.way hdown) ?_ ?_
  · intro q e hq
    rw [List.mem_append] at hq
    rw [hgoal _ hmem]
    rcases hq with hq | hq
    · simp only [List.mem_cons, Piece.directory.injEq, reduceCtorEq, List.not_mem_nil, or_false,
        false_or] at hq
      rcases hq with ⟨rfl, -⟩ | ⟨rfl, -⟩
      · exact template_not_made.1
      · exact template_not_made.2
    · obtain ⟨x, -, hx⟩ := List.mem_map.1 hq
      cases hx
  · rintro x ⟨content, hpiece, -⟩
    rw [List.mem_append] at hpiece
    rcases hpiece with hpiece | hpiece
    · simp only [List.mem_cons, Piece.file.injEq, reduceCtorEq, List.not_mem_nil, or_false,
        false_or] at hpiece
      rcases hpiece with ⟨hx, -⟩ | ⟨hx, -⟩
      · rw [hx]
        exact hconfig
      · -- the example is elsewhere
        rw [hx, hgoal _ hmem, goal_helloFile, goal_hello, goal_templates]
        intro heq
        exact absurd (congrArg List.length heq) (by simp)
    · -- the templates have different names
      obtain ⟨y, hy, heq⟩ := List.mem_map.1 hpiece
      obtain ⟨hx, -⟩ := Piece.file.inj heq
      have hy' : y ∈ Template.builtins := by
        rw [hsplit]
        exact List.mem_append_left _ hy
      rw [← hx, hgoal _ hy', hgoal _ hmem]
      intro heq
      have hname : y.1 = name :=
        String.toList_injective (Name.text.inj (List.cons.inj heq).1)
      have hnodup : (Template.builtins.map (·.1)).Nodup := by decide
      rw [hsplit, List.map_append, List.map_cons, List.nodup_append] at hnodup
      exact hnodup.2.2 y.1 (List.mem_map_of_mem hy) name List.mem_cons_self hname

end project

/-- Writing a new project is its pieces, with reports around them. -/
theorem initProject_run (config : Path) (s : Session) : ∃ s' : Session,
    initProject config false s =
      (((projectPieces config).forM Piece.run (s.reporting .initializing)).1, s') ∧
      s'.files = ((projectPieces config).forM Piece.run (s.reporting .initializing)).2.files := by
  have hreport : ∀ (v : Event) (s : Session), report v s = (.ok (), s.reporting v) :=
    fun _ _ => rfl
  unfold initProject
  rw [Building.bind_ok (hreport _ s), scaffold_eq]
  cases h : (projectPieces config).forM Piece.run (s.reporting .initializing) with
  | mk r s₁ =>
    cases r with
    | error e => exact ⟨s₁, Building.bind_error h, rfl⟩
    | ok _ =>
      rw [Building.bind_ok h, Building.bind_ok (hreport _ s₁)]
      exact ⟨_, rfl, rfl⟩

/-- The turn of a file among the pieces. -/
theorem pieces_of_files {earlier later : List (Path × List Char)}
    (h : projectFiles config = earlier ++ (p, content) :: later) :
    ∃ before after, projectPieces config = before ++ .file p content :: after ∧
      before.filterMap Piece.file? = earlier := by
  obtain ⟨before, rest, hpieces, hbefore, hrest⟩ := List.filterMap_eq_append_iff.1 h
  obtain ⟨between, piece, after, hsplit, hnone, hfile, -⟩ := List.filterMap_eq_cons_iff.1 hrest
  refine ⟨before ++ between, after, ?_, ?_⟩
  · have hpiece : piece = .file p content := by
      cases piece with
      | file q c => cases hfile; rfl
      | directory q e => cases hfile
    rw [hpieces, hsplit, hpiece, List.append_assoc]
  · have hempty : between.filterMap Piece.file? = [] := List.filterMap_eq_nil_iff.2 hnone
    rw [List.filterMap_append, hbefore, hempty, List.append_nil]

/-- **A new project keeps all that is there**, whether it can be written or not: what is at a place
stays there, and a path that led to something leads to it still. If it goes through, each of its
files is there. The settings are as they were, or have got their content, and so has each other
file, if there are no links and it is not the one that the settings have been written to. Over
links, and where paths coincide, what a path leads to may also be a directory or an earlier file of
the project. To write the project again changes nothing. -/
theorem initProject_keeps (config : Path) (s : Session) :
    ∃ r last, initProject config false s = (r, last) ∧
      (∀ l e, s.files.get? l = some e → last.files.get? l = some e) ∧
      (∀ p e, s.files.stat p = .ok e → last.files.stat p = .ok e) ∧
      (∀ p bytes, s.files.read p = .ok bytes → last.files.read p = .ok bytes) ∧
      (r = .ok () →
        (∀ x ∈ projectFiles config, last.files.exists x.1 = true) ∧
        Placed s.files last.files (root.join config) newSettings ∧
        (∀ earlier p content later, projectFiles config = earlier ++ (p, content) :: later →
          Landed s.files last.files
            {x | ∃ content, (x.1, content) ∈ earlier ∧ x.2 = Text.Utf8.encode content}
            p content) ∧
        (s.files.Linkless → Nested s.files → ∀ x ∈ sampleFiles,
          (root.join config).goal s.files.workDir ≠ x.1.goal s.files.workDir →
            Placed s.files last.files x.1 x.2) ∧
        ∀ s₂ : Session, s₂.files = last.files → ∃ last₂,
          initProject config false s₂ = (.ok (), last₂) ∧ last₂.files = last.files) := by
  obtain ⟨last, hrun, hfiles⟩ := initProject_run config s
  have hadds := extends_pieces (projectPieces config) (s.reporting .initializing)
  rw [← hfiles] at hadds
  have hext : Extends s.files last.files := hadds.toExtends
  refine ⟨_, last, hrun, hext.kept, fun p e => hext.stat, fun p bytes => hext.read, ?_⟩
  intro hok
  -- the pieces have gone through
  obtain ⟨s₁, hpieces⟩ : ∃ s₁, (projectPieces config).forM Piece.run (s.reporting .initializing) =
      (.ok (), s₁) := ⟨_, Prod.ext hok rfl⟩
  rw [hpieces] at hfiles
  rw [hfiles]
  have hdone := done_pieces (plain_projectPieces config) hpieces
  refine ⟨?_, ?_, ?_, ?_, ?_⟩
  · intro x hx
    exact hdone (.file x.1 x.2) (mem_files.1 hx)
  · exact placed_first (s := s.reporting .initializing) hpieces
  · intro earlier p content later hsplit
    obtain ⟨before, after, hpiece, hbefore⟩ := pieces_of_files hsplit
    rw [hpiece] at hpieces
    have hearlier : {x | ∃ content, (x.1, content) ∈ earlier ∧
        x.2 = Text.Utf8.encode content} = writtenBy before := by
      unfold writtenBy
      rw [← hbefore]
      simp only [mem_files]
    rw [hearlier]
    exact landed_of_split (s := s.reporting .initializing) hpieces
  · intro hl hn x hx hconfig
    rcases List.mem_cons.1 hx with rfl | hx
    · exact placed_hello (s := s.reporting .initializing) hl hn hpieces hconfig
    · obtain ⟨⟨name, source⟩, hmem, rfl⟩ := List.mem_map.1 hx
      exact placed_template (s := s.reporting .initializing) hl hn hpieces hmem hconfig
  · intro s₂ hs₂
    obtain ⟨last₂, hrun₂, hfiles₂⟩ := initProject_run config s₂
    obtain ⟨s₃, hagain, hsame⟩ := pieces_again (plain_projectPieces config)
      (s₂.reporting .initializing) fun piece hmem => by
        have hthere := hdone piece hmem
        rwa [← hs₂] at hthere
    rw [hagain] at hrun₂ hfiles₂
    exact ⟨last₂, hrun₂, hfiles₂.trans (hsame.trans hs₂)⟩

/-- Files with a template of their own, and without links. -/
def ownTemplate : Tree where
  entries := [([.text "templates".toList], .directory),
    ([.text "base.html".toList, .text "templates".toList], .file [104, 105])]

/-- The template is kept, and the settings come to be. -/
theorem initProject_keeps_own :
    ∃ r last, initProject (Path.ofString "exemplar.toml") false { files := ownTemplate } =
        (r, last) ∧
      r = .ok () ∧
      last.files.read (Path.ofString "templates/base.html") = .ok [104, 105] ∧
      ∀ x ∈ projectFiles (Path.ofString "exemplar.toml"),
        Placed ownTemplate last.files x.1 x.2 := by
  obtain ⟨r, last, hrun, -, -, hread, hok⟩ := initProject_keeps (Path.ofString "exemplar.toml")
    { files := ownTemplate }
  have hr : r = .ok () := by
    have hfirst : (initProject (Path.ofString "exemplar.toml") false { files := ownTemplate }).1 =
        .ok () := by decide +kernel
    rwa [hrun] at hfirst
  have hnested : Nested ownTemplate := nested_of_entries (by decide)
  obtain ⟨-, hsettings, -, hplaced, -⟩ := hok hr
  have hapart : ∀ x ∈ sampleFiles, (root.join (Path.ofString "exemplar.toml")).goal [] ≠
      x.1.goal [] := by decide +kernel
  refine ⟨r, last, hrun, hr, hread _ _ (by decide +kernel), fun x hx => ?_⟩
  rw [projectFiles_eq] at hx
  rcases List.mem_cons.1 hx with rfl | hx
  · exact hsettings
  · exact hplaced (noLink_of_entries (by decide)) hnested x hx (hapart x hx)

/-- A directory of templates with a link to what is not there. -/
def danglingLink : Tree where
  entries := [([.text "templates".toList], .directory),
    ([.text "base.html".toList, .text "templates".toList], .link "../examples".toList)]

/-- **Where paths coincide, and over links**, a new project goes through and leaves files that are
neither as they were nor their own: the settings stand in the place of a template, and another
template is a directory that the project has made. -/
theorem initProject_not_placed :
    let last := (initProject (Path.ofString "templates/index.html") false
      { files := danglingLink }).2.files
    (initProject (Path.ofString "templates/index.html") false { files := danglingLink }).1 =
        .ok () ∧
      ¬ Placed danglingLink last (templatesDirectory.join (Path.ofString "index.html"))
        Template.Builtin.index ∧
      ¬ Placed danglingLink last (templatesDirectory.join (Path.ofString "base.html"))
        Template.Builtin.base := by
  intro last
  have hindex : danglingLink.stat (templatesDirectory.join (Path.ofString "index.html")) =
      .error .notFound := by decide +kernel
  have hbase : danglingLink.stat (templatesDirectory.join (Path.ofString "base.html")) =
      .error .notFound := by decide +kernel
  have hsettings : last.read (templatesDirectory.join (Path.ofString "index.html")) =
      .ok (Text.Utf8.encode newSettings) := by decide +kernel
  have hdirectory : last.read (templatesDirectory.join (Path.ofString "base.html")) =
      .error .isDirectory := by decide +kernel
  refine ⟨by decide +kernel, ?_, ?_⟩
  · rintro (⟨e, h, -⟩ | ⟨-, h⟩)
    · rw [hindex] at h
      cases h
    · rw [hsettings] at h
      exact absurd (Except.ok.inj h) (by decide +kernel)
  · rintro (⟨e, h, -⟩ | ⟨-, h⟩)
    · rw [hbase] at h
      cases h
    · rw [hdirectory] at h
      cases h

end LiterateSite.CommandLine
