import LiterateSite.Proofs.Site.Places
import LiterateSite.Proofs.Template.Tags
import LiterateSite.Proofs.Template.Unused
import LiterateSite.Proofs.Text.Utf8
import LiterateSite.Site.TemplateDirectory

/-!
# The templates of a directory over the built-in ones

A directory of templates and the built-in ones are looked up in two ways: built-in names are sorted
out when the directory is opened, and files are read when a name is used.

* `overlay`: one map for both, by files and then by built-in names.
* `source_overridden`: **the two ways agree with the map** at every name.
* `LeavesBuiltin`: a built-in name that the directory leaves as it is; `keeps_overlay`.
* `templates_overlay`: an opened directory renders every page as the map does, with the built-in
  templates, frames and pages of its own in any combination. What is under names that a page does
  not use has no part in it.
-/

namespace LiterateSite.Site

open Files Text
open Template (Source Document Scope ExamplePage run render renderExample renderIndex
  builtins builtin? baseName exampleName indexName indexScope escapesIn pageVariables frameOf framed
  exampleContentText indexContentText render_extending renderExample_within renderIndex_within
  renderExample_builtin renderIndex_builtin renderExample_of_unused renderIndex_of_unused
  only_of_used load_only load_builtin pageVariables_of_lookup read_of_alike writes_cons writes_last
  writes_text writes_print_text)
open Template.Builtin (extending frame titleName siteTitleName read_base)

variable {t : Tree} {directory : Path} {name : List Char} {source : List Char}

/-! ## The map -/

/-- Where a directory has the template of a name. -/
def templatePath (directory : Path) (name : List Char) : Path :=
  (Path.split name).foldl (fun p part => p.join ⟨part⟩) directory

/-- The content of the file that the name of a template leads to. -/
def templateFile? (t : Tree) (directory : Path) (name : List Char) : Option (List UInt8) :=
  if isTemplateName name then (t.read (templatePath directory name)).toOption else none

/-- The source that a file holds, which has to be text. -/
def sourceOfBytes (content : List UInt8) : Except Template.TemplateError (List Char) :=
  match Utf8.decode? content with
  | some source => .ok source
  | none => .error .invalidOperation

/-- Why there is no file: either nothing is there, or what is there cannot be read. -/
def missing (t : Tree) (directory : Path) (name : List Char) : Template.TemplateError :=
  if isTemplateName name && t.read (templatePath directory name) != .error .notFound then
    .invalidOperation
  else .notFound

/-- **The templates of a directory over the built-in ones**: a name stands for the file that it
leads to, or else for the built-in template. -/
def overlay (t : Tree) (directory : Path) : Source := fun name =>
  match templateFile? t directory name, builtin? name with
  | some content, _ => sourceOfBytes content
  | none, some source => .ok source
  | none, none => .error (missing t directory name)

/-! ## The two ways of looking up -/

theorem isFile_eq (t : Tree) (p : Path) : t.isFile p = (t.read p).toOption.isSome := by
  unfold Tree.isFile Tree.read
  cases t.stat p with
  | error e => rfl
  | ok e => cases e <;> rfl

/-- Built-in names lead to files of the directory itself. -/
theorem templatePath_builtin (directory : Path) {known : String}
    (h : known ∈ builtins.map (·.1)) :
    isTemplateName known.toList = true ∧
      templatePath directory known.toList = directory.join (Path.ofString known) := by
  have hnames : ∀ known ∈ builtins.map (·.1),
      isTemplateName known.toList = true ∧ Path.split known.toList = [known.toList] := by decide
  obtain ⟨hname, hsplit⟩ := hnames known h
  refine ⟨hname, ?_⟩
  unfold templatePath
  rw [hsplit]
  rfl

/-- A built-in template has one of the names. -/
theorem mem_of_builtin? (h : builtin? name = some source) :
    ∃ known ∈ builtins.map (·.1), known.toList = name := by
  obtain ⟨found, hfind, -⟩ := Option.map_eq_some_iff.1 h
  have hmem := List.mem_of_find?_eq_some hfind
  have hname := List.find?_some hfind
  exact ⟨found.1, List.mem_map_of_mem hmem, beq_iff_eq.1 hname⟩

/-- **Opening a directory** sorts out the built-in names that have a file. -/
theorem any_overriddenIn (h : builtin? name = some source) :
    ((overriddenIn t directory).any fun known => known.toList == name) =
      (templateFile? t directory name).isSome := by
  obtain ⟨known, hmem, rfl⟩ := mem_of_builtin? h
  obtain ⟨hname, hpath⟩ := templatePath_builtin directory hmem
  have hfile : (templateFile? t directory known.toList).isSome =
      t.isFile (directory.join (Path.ofString known)) := by
    unfold templateFile?
    rw [if_pos hname, hpath, isFile_eq]
  rw [hfile, Bool.eq_iff_iff, List.any_eq_true]
  unfold overriddenIn
  constructor
  · rintro ⟨found, hfound, heq⟩
    have hsame : found = known := String.toList_injective (beq_iff_eq.1 heq)
    rw [← hsame]
    exact (List.mem_filter.1 hfound).2
  · intro hisFile
    exact ⟨known, List.mem_filter.2 ⟨hmem, hisFile⟩, beq_iff_eq.2 rfl⟩

/-- **Reading a file when its name is used.** -/
theorem sourceIn_eq (t : Tree) (directory : Path) (name : List Char) :
    sourceIn t directory name = match templateFile? t directory name with
      | some content => sourceOfBytes content
      | none => .error (missing t directory name) := by
  unfold sourceIn templateFile? missing
  cases hname : isTemplateName name with
  | false => rfl
  | true =>
    rw [if_pos rfl, if_pos rfl, Bool.true_and]
    have hpath : (Path.split name).foldl (fun p part => p.join ⟨part⟩) directory =
        templatePath directory name := rfl
    rw [hpath]
    unfold Tree.readText
    cases hread : t.read (templatePath directory name) with
    | ok content =>
      simp only [Except.toOption, sourceOfBytes]
      cases Utf8.decode? content <;> rfl
    | error e => cases e <;> rfl

/-- **The two ways of looking up agree with the map** at every name. -/
theorem source_overridden (t : Tree) (directory : Path) :
    ({ directory := some directory, overridden := overriddenIn t directory } : Templates).source t =
      overlay t directory := by
  funext name
  unfold Templates.source Templates.known? Templates.builtin? overlay
  simp only [List.lookup_nil, Option.or_none]
  cases hb : builtin? name with
  | none =>
    rw [ite_self]
    change sourceIn t directory name = _
    rw [sourceIn_eq]
    cases templateFile? t directory name <;> rfl
  | some source =>
    rw [any_overriddenIn hb]
    cases hfile : templateFile? t directory name with
    | none => rfl
    | some content =>
      change sourceIn t directory name = _
      rw [sourceIn_eq, hfile]

/-- Opening a directory leaves the files as they are. -/
theorem templatesIn_run (directory : Path) (s : Session) : ∃ s' : Session,
    templatesIn directory s =
      (.ok { directory := some directory, overridden := overriddenIn s.files directory }, s') ∧
      s'.files = s.files := by
  unfold templatesIn
  rw [Building.bind_ok (Building.files_run s)]
  obtain ⟨s', hrun, ⟨hfiles, -⟩⟩ := forM_report ((overriddenIn s.files directory).map fun name =>
    .usingTemplate (directory.join (Path.ofString name))) s
  rw [List.forM_eq_forM, List.forM_map, ← List.forM_eq_forM] at hrun
  rw [Building.bind_ok hrun]
  exact ⟨s', rfl, hfiles⟩

/-! ## Templates of both kinds -/

/-- A built-in name that the directory leaves as it is: there is no file, or one that holds the
built-in source. -/
def LeavesBuiltin (t : Tree) (directory : Path) (name : String) : Prop :=
  t.isFile (directory.join (Path.ofString name)) = false ∨
    ∃ source, builtin? name.toList = some source ∧
      t.readText (directory.join (Path.ofString name)) = .ok source

/-- A file reads to the text that it has been written from. -/
theorem readText_encode {p : Path} (h : t.read p = .ok (Utf8.encode source)) :
    t.readText p = .ok source := by
  unfold Tree.readText Utf8.decode?
  rw [h]
  simp only [Utf8.decodeLossy_encode, if_true]

theorem overlay_of_readText {known : String} (h : known ∈ builtins.map (·.1))
    (hr : t.readText (directory.join (Path.ofString known)) = .ok source) :
    overlay t directory known.toList = .ok source := by
  obtain ⟨hname, hpath⟩ := templatePath_builtin directory h
  unfold Tree.readText at hr
  cases hread : t.read (directory.join (Path.ofString known)) with
  | error e => rw [hread] at hr; cases hr
  | ok content =>
    rw [hread] at hr
    have hfile : templateFile? t directory known.toList = some content := by
      unfold templateFile?
      rw [if_pos hname, hpath, hread]
      rfl
    simp only at hr
    cases hdecode : Utf8.decode? content with
    | none => rw [hdecode] at hr; cases hr
    | some found =>
      rw [hdecode] at hr
      cases hr
      unfold overlay sourceOfBytes
      rw [hfile]
      simp only [hdecode]

/-- **A name that the directory leaves as it is** stands for the built-in template. -/
theorem keeps_overlay {known : String} (h : known ∈ builtins.map (·.1))
    (hk : LeavesBuiltin t directory known) : (overlay t directory).Keeps known := by
  unfold Source.Keeps Source.builtin
  rcases hk with habsent | ⟨source, hb, hr⟩
  · obtain ⟨hname, hpath⟩ := templatePath_builtin directory h
    have hfile : templateFile? t directory known.toList = none := by
      rw [isFile_eq, Option.isSome_eq_false_iff, Option.isNone_iff_eq_none] at habsent
      unfold templateFile?
      rw [if_pos hname, hpath, habsent]
    have hall : ∀ known ∈ builtins.map (·.1), (builtin? known.toList).isSome = true := by decide
    obtain ⟨source, hb⟩ := Option.isSome_iff_exists.1 (hall known h)
    unfold overlay
    rw [hfile, hb]
  · rw [overlay_of_readText h hr, hb]

/-- The built-in names. -/
theorem mem_builtins :
    baseName ∈ builtins.map (·.1) ∧ exampleName ∈ builtins.map (·.1) ∧
      indexName ∈ builtins.map (·.1) := by decide

/-- A file of the directory under a built-in name is loaded as what it reads to. -/
theorem load_overlay {known : String} {document : Document} (h : known ∈ builtins.map (·.1))
    (hr : t.readText (directory.join (Path.ofString known)) = .ok source)
    (hd : Document.read source = .ok document) :
    (overlay t directory).load known.toList = .ok document := by
  unfold Source.load
  rw [overlay_of_readText h hr]
  exact hd

/-! ## Pages -/

/-- The directory has a frame, which writes these texts around the content of a page. -/
def FrameIn (t : Tree) (directory : Path) (page : Scope) (above below : List Char) : Prop :=
  ∃ source front back, t.readText (directory.join (Path.ofString baseName)) = .ok source ∧
    Document.read source = .ok (frameOf front back) ∧
    (∀ m, Template.Writes (pageVariables page) 1 (run m front) above) ∧
    ∀ m, Template.Writes (pageVariables page) 1 (run m back) below

/-- The directory has a template of a name that fills in the content of a frame, and writes this
text there. -/
def ContentIn (t : Tree) (directory : Path) (name : String) (page : Scope)
    (chars : List Char) : Prop :=
  ∃ source content, t.readText (directory.join (Path.ofString name)) = .ok source ∧
    Document.read source = .ok (extending content) ∧
    ∀ m, Template.Writes (pageVariables page) 2 (run m content) chars

/-- **The content of a page of the directory** within the built-in frame. -/
theorem render_content {known : String} {page : Scope} {title siteTitle chars : List Char}
    (h : known ∈ builtins.map (·.1)) (hname : escapesIn known.toList = true)
    (hb : LeavesBuiltin t directory baseName)
    (hc : ContentIn t directory known page chars)
    (htitle : pageVariables page titleName = some (.text title))
    (hsite : pageVariables page siteTitleName = some (.text siteTitle)) :
    render (overlay t directory).load known.toList page = .ok (framed siteTitle title chars) := by
  obtain ⟨source, content, hr, hd, hw⟩ := hc
  have hbase : (overlay t directory).load baseName.toList = .ok frame :=
    load_builtin (keeps_overlay mem_builtins.1 hb) rfl read_base
  exact render_extending htitle hsite hw (load_overlay h hr hd) hbase hname

/-- **Templates of a directory.** An opened directory has the source of every name from one map, by
files and then by built-in names, and renders every page as the map does. A page that goes through
with the templates of some names alone is the same whatever files there are under other names, and
whether they can be read or not. Where the directory leaves the templates of a page as they are,
with no file or one that holds the built-in source, the page is the built-in one, whatever else is
in the directory. A frame of the directory stands around the built-in contents, and a content of
the directory stands within the built-in frame. -/
theorem templates_overlay (directory : Path) (s : Session) :
    ∃ ts s', templatesIn directory s = (.ok ts, s') ∧ s'.files = s.files ∧
      ts.source s'.files = overlay s.files directory ∧
      (∀ page, renderExample (ts.source s'.files) page =
        renderExample (overlay s.files directory) page) ∧
      (∀ siteTitle examples, renderIndex (ts.source s'.files) siteTitle examples =
        renderIndex (overlay s.files directory) siteTitle examples) ∧
      (∀ used t', (∀ name, used name = true →
          overlay t' directory name = overlay s.files directory name) →
        (∀ page chars, renderExample ((overlay s.files directory).only used) page = .ok chars →
          renderExample (overlay t' directory) page = .ok chars) ∧
        ∀ siteTitle examples chars,
          renderIndex ((overlay s.files directory).only used) siteTitle examples = .ok chars →
          renderIndex (overlay t' directory) siteTitle examples = .ok chars) ∧
      (LeavesBuiltin s.files directory baseName → LeavesBuiltin s.files directory exampleName →
        ∀ page, renderExample (ts.source s'.files) page = renderExample .builtin page) ∧
      (LeavesBuiltin s.files directory baseName → LeavesBuiltin s.files directory indexName →
        ∀ siteTitle examples, renderIndex (ts.source s'.files) siteTitle examples =
          renderIndex .builtin siteTitle examples) ∧
      (∀ (page : ExamplePage) above below, FrameIn s.files directory page.scope above below →
        LeavesBuiltin s.files directory exampleName →
        renderExample (ts.source s'.files) page =
          .ok (above ++ (exampleContentText page ++ below))) ∧
      (∀ siteTitle examples above below,
        FrameIn s.files directory (indexScope siteTitle examples) above below →
        LeavesBuiltin s.files directory indexName →
        renderIndex (ts.source s'.files) siteTitle examples =
          .ok (above ++ (indexContentText siteTitle examples ++ below))) ∧
      (∀ (page : ExamplePage) chars, ContentIn s.files directory exampleName page.scope chars →
        LeavesBuiltin s.files directory baseName →
        renderExample (ts.source s'.files) page =
          .ok (framed page.siteTitle page.name chars)) ∧
      ∀ siteTitle examples chars,
        ContentIn s.files directory indexName (indexScope siteTitle examples) chars →
        LeavesBuiltin s.files directory baseName →
        renderIndex (ts.source s'.files) siteTitle examples =
          .ok (framed siteTitle siteTitle chars) := by
  obtain ⟨s', hrun, hfiles⟩ := templatesIn_run directory s
  obtain ⟨hbase, hexample, hindex⟩ := mem_builtins
  refine ⟨_, s', hrun, hfiles, ?_⟩
  rw [hfiles, source_overridden]
  refine ⟨rfl, fun _ => rfl, fun _ _ => rfl, ?_, ?_, ?_, ?_, ?_, ?_, ?_⟩
  · intro used t' h
    exact ⟨fun _ _ => renderExample_of_unused h, fun _ _ _ => renderIndex_of_unused h⟩
  · intro hb he page
    rw [renderExample_builtin (keeps_overlay hbase hb) (keeps_overlay hexample he),
      renderExample_builtin (s := .builtin) rfl rfl]
  · intro hb hi siteTitle examples
    rw [renderIndex_builtin (keeps_overlay hbase hb) (keeps_overlay hindex hi),
      renderIndex_builtin (s := .builtin) rfl rfl]
  · rintro page above below ⟨source, front, back, hr, hd, hfront, hback⟩ he
    exact renderExample_within (keeps_overlay hexample he) (load_overlay hbase hr hd) page
      hfront hback
  · rintro siteTitle examples above below ⟨source, front, back, hr, hd, hfront, hback⟩ hi
    exact renderIndex_within (keeps_overlay hindex hi) (load_overlay hbase hr hd) siteTitle
      examples hfront hback
  · intro page chars hc hb
    exact render_content hexample (by decide +kernel) hb hc (pageVariables_of_lookup rfl)
      (pageVariables_of_lookup rfl)
  · intro siteTitle examples chars hc hb
    exact render_content hindex (by decide +kernel) hb hc (pageVariables_of_lookup rfl)
      (pageVariables_of_lookup rfl)

/-- A directory with some templates. -/
def templateTree (files : List (String × List Char)) : Tree where
  entries := ([.text "templates".toList], .directory) :: files.map fun (name, source) =>
    ([.text name.toList, .text "templates".toList], .file (Utf8.encode source))

def ownFrame : List Char :=
  "<custom>\x7b% block content %\x7d\x7b% endblock %\x7d</custom>".toList

def ownContent : List Char :=
  ("\x7b% extends \"base.html\" %\x7d\n\n" ++
    "\x7b% block content %\x7d<h1>\x7b\x7b site_title \x7d\x7d</h1>\x7b% endblock %\x7d").toList

theorem read_ownFrame :
    Document.read ownFrame = .ok (frameOf [.text "<custom>".toList] [.text "</custom>".toList]) :=
  read_of_alike (by decide +kernel)

theorem read_ownContent : Document.read ownContent = .ok (extending
    [.text "<h1>".toList, .print (.var siteTitleName), .text "</h1>".toList]) :=
  read_of_alike (by decide +kernel)

/-- The frame of the directory, around any page. -/
theorem frameIn_own (page : Scope) :
    FrameIn (templateTree [(baseName, ownFrame)]) (Path.ofString "templates") page
      "<custom>".toList "</custom>".toList :=
  ⟨ownFrame, _, _, readText_encode rfl, read_ownFrame, fun _ => writes_last (writes_text _),
    fun _ => writes_last (writes_text _)⟩

/-- The content of the directory, for any page. -/
theorem contentIn_own {t : Tree} {page : Scope} {siteTitle : List Char}
    (hr : t.readText ((Path.ofString "templates").join (Path.ofString exampleName)) =
      .ok ownContent)
    (hsite : pageVariables page siteTitleName = some (.text siteTitle)) :
    ContentIn t (Path.ofString "templates") exampleName page
      ("<h1>".toList ++ (Template.escape siteTitle ++ "</h1>".toList)) :=
  ⟨ownContent, _, hr, read_ownContent, fun _ => writes_cons (writes_text _)
    (writes_cons (writes_print_text hsite) (writes_last (writes_text _)))⟩

/-- A page to be shown within templates of both kinds. -/
def ownPage : ExamplePage where
  siteTitle := "Site".toList
  name := "Name".toList
  id := "name".toList
  description := []
  previous := none
  next := none
  rows := []

/-- The same frame, beside an index that is no text. -/
def brokenTree : Tree where
  entries := ([.text indexName.toList, .text "templates".toList], .file [0xff]) ::
    (templateTree [(baseName, ownFrame)]).entries

/-- The names that the page of an example uses. -/
def usedByExamples (name : List Char) : Bool :=
  name == baseName.toList || name == exampleName.toList

theorem overlay_brokenTree (name : List Char) (h : usedByExamples name = true) :
    overlay brokenTree (Path.ofString "templates") name =
      overlay (templateTree [(baseName, ownFrame)]) (Path.ofString "templates") name := by
  rcases Bool.or_eq_true_iff.1 h with hb | he
  · rw [beq_iff_eq.1 hb]
    decide +kernel
  · rw [beq_iff_eq.1 he]
    have hkeeps : ∀ t : Tree,
        t.isFile ((Path.ofString "templates").join (Path.ofString exampleName)) = false →
        (overlay t (Path.ofString "templates")).Keeps exampleName :=
      fun t h => keeps_overlay mem_builtins.2.1 (.inl h)
    exact (hkeeps _ (by decide +kernel)).trans (hkeeps _ (by decide +kernel)).symm

/-- The built-in page in a frame of the directory, also beside an index that cannot be read; and a
content of the directory in the built-in frame, which the directory holds as it is, beside an index
without a file. -/
theorem templates_overlay_own :
    (∃ ts s', templatesIn (Path.ofString "templates")
        { files := templateTree [(baseName, ownFrame)] } = (.ok ts, s') ∧
      renderExample (ts.source s'.files) ownPage =
        .ok ("<custom>".toList ++ (exampleContentText ownPage ++ "</custom>".toList)) ∧
      renderExample (overlay brokenTree (Path.ofString "templates")) ownPage =
        .ok ("<custom>".toList ++ (exampleContentText ownPage ++ "</custom>".toList)) ∧
      renderIndex (overlay brokenTree (Path.ofString "templates")) "Site".toList [] =
        .error .invalidOperation) ∧
    ∃ ts s', templatesIn (Path.ofString "templates")
        { files := templateTree [(baseName, Template.Builtin.base), (exampleName, ownContent)] } =
          (.ok ts, s') ∧
      renderExample (ts.source s'.files) ownPage =
        .ok (framed "Site".toList "Name".toList "<h1>Site</h1>".toList) ∧
      renderIndex (ts.source s'.files) "Site".toList [] =
        renderIndex .builtin "Site".toList [] := by
  constructor
  · let t := templateTree [(baseName, ownFrame)]
    obtain ⟨ts, s', hrun, -, -, -, -, hunused, -, -, hframe, -⟩ := templates_overlay
      (Path.ofString "templates") { files := t }
    have hexample : LeavesBuiltin t (Path.ofString "templates") exampleName :=
      .inl (by decide +kernel)
    refine ⟨ts, s', hrun, hframe ownPage _ _ (frameIn_own _) hexample, ?_, by decide +kernel⟩
    refine (hunused usedByExamples brokenTree overlay_brokenTree).1 ownPage _ ?_
    have hkeeps : ((overlay t (Path.ofString "templates")).only usedByExamples).Keeps
        exampleName :=
      (only_of_used (by decide)).trans (keeps_overlay mem_builtins.2.1 hexample)
    have hbase : ((overlay t (Path.ofString "templates")).only usedByExamples).load
        baseName.toList = .ok (frameOf [.text "<custom>".toList] [.text "</custom>".toList]) :=
      (load_only (by decide)).trans
        (load_overlay mem_builtins.1 (readText_encode rfl) read_ownFrame)
    exact renderExample_within hkeeps hbase ownPage (fun _ => writes_last (writes_text _))
      fun _ => writes_last (writes_text _)
  · let t := templateTree [(baseName, Template.Builtin.base), (exampleName, ownContent)]
    obtain ⟨ts, s', hrun, -, -, -, -, -, -, hindex, -, -, hcontent, -⟩ := templates_overlay
      (Path.ofString "templates") { files := t }
    have hbase : LeavesBuiltin t (Path.ofString "templates") baseName :=
      .inr ⟨Template.Builtin.base, rfl, readText_encode rfl⟩
    have hown : ContentIn t (Path.ofString "templates") exampleName ownPage.scope _ :=
      contentIn_own (readText_encode rfl) (pageVariables_of_lookup rfl)
    exact ⟨ts, s', hrun, hcontent ownPage _ hown hbase,
      hindex hbase (.inl (by decide +kernel)) _ _⟩

end LiterateSite.Site
