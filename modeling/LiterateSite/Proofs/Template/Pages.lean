import LiterateSite.Proofs.Template.Builtin
import LiterateSite.Proofs.Template.Writes

/-!
# What the built-in templates write

* `frameOf`, `render_within`: **a template that extends a frame** writes its content within the
  frame; `framed`, `render_extending`: so with the built-in one.
* `pagerText`, `renderExample_builtin`: **the page of an example**, in which only the pager depends
  on the neighbours.
* `itemText`, `renderIndex_builtin`: **the index** has an item for each example, in their order.
-/

namespace LiterateSite.Template

open Eval Builtin

variable {load : List Char → Except TemplateError Document} {m : Machine} {vars : Variables}
  {depth : Nat} {name chars title siteTitle : List Char} {page : Scope} {content : List Stmt}
  {st : State} {s : Source}

/-! ## The frame -/

/-- The frame up to its content. -/
def aboveContent (siteTitle title : List Char) : List Char :=
  upToTitle ++ ((if title != siteTitle then escape title ++ " - ".toList else []) ++
    (escape siteTitle ++ fromTitle))

/-- The page of the frame around some content. -/
def framed (siteTitle title content : List Char) : List Char :=
  aboveContent siteTitle title ++ (content ++ afterContent)

/-- The variables of a page, which are in front of the functions. -/
def pageVariables (page : Scope) : Variables :=
  State.lookup { page, frames := [{ backdrop := .page }] }

theorem pageVariables_of_lookup {v : Value} (h : page.lookup name = some v) :
    pageVariables page name = some v := by
  unfold pageVariables State.lookup
  simp [State.lookupIn, State.behind, h]

theorem writes_print_text (h : vars name = some (.text chars)) :
    Writes vars depth (runOne m (.print (.var name))) (escape chars) :=
  writes_print (gives_var h) fun _ => rfl

theorem writes_beforeContent (htitle : vars titleName = some (.text title))
    (hsite : vars siteTitleName = some (.text siteTitle)) :
    Writes vars depth (run m beforeContent) (aboveContent siteTitle title) := by
  have htest : Gives m vars depth (.compare (.var titleName) [.ne] [.var siteTitleName])
      (.bool (title != siteTitle)) := gives_ne (gives_var htitle) (gives_var hsite)
  unfold beforeContent aboveContent
  refine writes_cons (writes_text _) (writes_cons (writes_branch htest ?_) ?_)
  · show Writes vars depth (run m (if title != siteTitle then _ else _)) _
    split
    · exact writes_cons (writes_print_text htitle) (writes_last (writes_text _))
    · exact writes_nil
  · exact writes_cons (writes_print_text hsite) (writes_last (writes_text _))

theorem writes_link {l : Link} {id : Option (List Char)} (h : vars name = some (optional id)) :
    Writes vars depth (runOne m (l.stmt name)) (l.to id) := by
  refine writes_branch (gives_var h) ?_
  cases id with
  | none => exact writes_nil
  | some id =>
    have hprint : Writes vars depth (runOne m (.print (.var name))) (escape id) :=
      writes_print_text h
    cases id with
    | nil => exact writes_nil
    | cons c rest =>
      refine writes_cons (writes_text _) (writes_cons hprint (writes_cons (writes_text _) ?_))
      exact writes_cons hprint (writes_last (writes_text _))

/-! ## Templates that extend the frame -/

theorem jump_block (load : List Char → Except TemplateError Document) (fuel : Nat)
    (name : List Char) :
    jump load (fuel + 1) (.block name) = runBlock ⟨load, jump load fuel⟩ name := rfl

theorem jump_template (load : List Char → Except TemplateError Document) (fuel : Nat)
    (t : Document) : jump load (fuel + 1) (.template t) =
      runTemplate ⟨load, jump load fuel⟩ (fuel + 1) t := rfl

/-- **The block of the content**, where it stands in the frame. -/
theorem runBlock_content {chars : List Char} {contents : List (List Stmt)}
    (h : st.Sees vars depth) (hd : ¬ depth > State.scopeLimit)
    (hb : st.blocks = [(contentName, { bodies := content :: contents })])
    (hw : Writes vars (depth + 1) (run m content) chars) :
    ∃ n, runBlock m contentName st = .ok ((), st.wrote chars n) := by
  have hset : ({ st with current := some contentName, parent := none } : State).Sees vars depth :=
    ⟨h.bindings, h.loud, h.escaping, h.depth⟩
  obtain ⟨n, hn⟩ := hw _ hset.push
  refine ⟨n, ?_⟩
  have hlookup : st.blocks.lookup contentName = some { bodies := content :: contents } := by
    rw [hb, List.lookup_cons_self]
  unfold runBlock
  rw [bind_ok get_run, hlookup]
  simp only
  rw [bind_ok set_run]
  exact (bind_ok (inScope_ok (hset.depth ▸ hd) hn)).trans rfl

/-- The state of a rendering that begins with the template of a name. -/
def beginning (name : List Char) (page : Scope) : State :=
  { page, frames := [{ backdrop := .page }], loaded := [name] }

/-- **The blocks of a template that extends the frame** stand before those of the frame. -/
def extended (name : List Char) (page : Scope) (content : List Stmt) : State :=
  { beginning name page with
    blocks := [(contentName, { bodies := [content, []] })]
    extended := [baseName.toList]
    loaded := [baseName.toList, name] }

theorem sees_extended : (extended name page content).Sees (pageVariables page) 1 :=
  ⟨fun _ => rfl, rfl, rfl, rfl⟩

/-- The text of a rendering that has gone through. -/
theorem render_of_rendering {r : Rendering} (h : rendering load name page = .ok r) :
    render load name page = .ok r.text := by
  unfold render
  rw [h]
  rfl

/-- Beginning to extend a template. -/
theorem extendTemplate_run {t : Document} (hp : st.parent = none)
    (hnot : st.extended.contains name = false) (h : m.load name = .ok t) :
    extendTemplate m (.text name) st = .ok ((), { st.addBlocks t with
      parent := some t, silent := true, extended := name :: st.extended
      loaded := name :: st.loaded }) := by
  unfold extendTemplate
  rw [bind_ok get_run, hp]
  simp only [Value.chars?, hnot]
  exact (bind_ok (lift_run h)).trans rfl

/-- A template that templates extend: what it writes stands around their content. -/
def frameOf (front back : List Stmt) : Document where
  body := front ++ .block contentName :: back
  blocks := [(contentName, [])]

/-- The body of a template that extends a frame writes nothing. -/
theorem run_extending {front back : List Stmt}
    (hbase : m.load baseName.toList = .ok (frameOf front back)) :
    run m (extending content).body ((beginning name page).addBlocks (extending content)) =
      .ok ((), { extended name page content with
        parent := some (frameOf front back), silent := true }) := by
  have hextend : extendTemplate m (.text baseName.toList)
      ((beginning name page).addBlocks (extending content)) = _ := extendTemplate_run rfl rfl hbase
  change run m (_ :: _) _ = _
  rw [run]
  exact (bind_ok hextend).trans rfl

section frame

variable {front back : List Stmt} {above below : List Char}
  (hfront : ∀ m, Writes (pageVariables page) 1 (run m front) above)
  (hcontent : ∀ m, Writes (pageVariables page) 2 (run m content) chars)
  (hback : ∀ m, Writes (pageVariables page) 1 (run m back) below)

include hfront hcontent hback

/-- **The body of a frame**, where the content stands in it. -/
theorem run_frame {m' : Machine} (hjump : m.jump (.block contentName) = runBlock m' contentName) :
    ∃ n, run m (frameOf front back).body (extended name page content) =
      .ok ((), (extended name page content).wrote (above ++ (chars ++ below)) n) := by
  obtain ⟨n, hbefore⟩ := hfront m _ sees_extended
  obtain ⟨k, hblock⟩ := runBlock_content (m := m') (sees_extended.wrote _ n) (by decide) rfl
    (hcontent m')
  obtain ⟨j, hafter⟩ := hback m _ ((sees_extended.wrote _ n).wrote chars k)
  have hplace : runOne m (.block contentName) ((extended name page content).wrote _ n) = _ :=
    (congrFun hjump _).trans hblock
  refine ⟨j, (run_append _ hbefore).trans ?_⟩
  rw [run, bind_ok hplace, hafter, State.wrote_wrote, State.wrote_wrote]

/-- **A frame**, reached from a template that extends it. -/
theorem runTemplate_frame (fuel : Nat) {m' : Machine}
    (hjump : m.jump (.block contentName) = runBlock m' contentName) :
    ∃ n, runTemplate m (fuel + 1) (frameOf front back) (extended name page content) =
      .ok ((), (extended name page content).wrote (above ++ (chars ++ below)) n) := by
  obtain ⟨n, hframe⟩ := run_frame hfront hcontent hback hjump
  refine ⟨n, ?_⟩
  rw [runTemplate, bind_ok get_run, bind_ok (modify_run _)]
  exact (bind_ok hframe).trans rfl

theorem runTemplate_extending (fuel : Nat) {m' : Machine}
    (hbase : m.load baseName.toList = .ok (frameOf front back))
    (hjump : m.jump (.block contentName) = runBlock m' contentName) :
    ∃ n, runTemplate m (fuel + 2) (extending content)
      ((beginning name page).addBlocks (extending content)) =
        .ok ((), (extended name page content).wrote (above ++ (chars ++ below)) n) := by
  obtain ⟨n, hframe⟩ := runTemplate_frame hfront hcontent hback fuel hjump
  refine ⟨n, ?_⟩
  rw [runTemplate, bind_ok get_run, bind_ok (modify_run _)]
  refine (bind_ok (run_extending hbase)).trans ?_
  exact hframe

/-- **A template that extends a frame** writes its content within the frame. -/
theorem render_within (hpage : load name = .ok (extending content))
    (hbase : load baseName.toList = .ok (frameOf front back)) (hname : escapesIn name = true) :
    render load name page = .ok (above ++ (chars ++ below)) := by
  -- the fuel is a variable here, so that nothing looks into it
  obtain ⟨n, hrun⟩ := runTemplate_extending (m := ⟨load, jump load (State.scopeLimit + 1)⟩) hfront
    hcontent hback State.scopeLimit hbase (jump_block load _ contentName)
  have hjump : jump load placeLimit (.template (extending content))
      ((beginning name page).addBlocks (extending content)) = _ :=
    (congrFun (jump_template load _ _) _).trans hrun
  have hrendering : rendering load name page =
      .ok { text := above ++ (chars ++ below), loaded := [baseName.toList, name] } := by
    unfold rendering
    rw [hpage, hname]
    show (jump load placeLimit (.template (extending content))
      ((beginning name page).addBlocks (extending content)) >>= fun x =>
        .ok (⟨x.2.reversed.reverse, x.2.loaded⟩ : Rendering)) = _
    rw [hjump]
    show Except.ok (⟨((above ++ (chars ++ below)).reverse ++ []).reverse, _⟩ : Rendering) = _
    rw [List.append_nil, List.reverse_reverse]
    rfl
  exact render_of_rendering hrendering

end frame

/-- **A template that extends the built-in frame** writes its content within it. -/
theorem render_extending (htitle : pageVariables page titleName = some (.text title))
    (hsite : pageVariables page siteTitleName = some (.text siteTitle))
    (hcontent : ∀ m, Writes (pageVariables page) 2 (run m content) chars)
    (hpage : load name = .ok (extending content))
    (hbase : load baseName.toList = .ok frame) (hname : escapesIn name = true) :
    render load name page = .ok (framed siteTitle title chars) :=
  render_within (fun _ => writes_beforeContent htitle hsite) hcontent
    (fun _ => writes_last (writes_text afterContent)) hpage hbase hname

/-! ## Pages -/

/-- The page of an example shows a row. -/
def rowText (r : Row) : List Char :=
  "\n  <tr>\n    <td class=\"docs\">".toList ++ (r.markdown ++
    ("</td>\n    <td class=\"code\">".toList ++ (r.codeBlock ++ "</td>\n  </tr>\n".toList)))

/-- The index shows an example. -/
def itemText (e : IndexEntry) : List Char :=
  "\n  <li>\n    <a href=\"".toList ++ (escape e.id ++ (".html\">".toList ++ (escape e.name ++
    ("</a>\n    ".toList ++ ((if e.description = [] then [] else
      "<span class=\"description\">".toList ++ (escape e.description ++ "</span>".toList)) ++
      "\n  </li>\n".toList)))))

theorem gives_within {item place : Value} :
    Gives m (vars.within name item place) depth (.var name) item := gives_var (if_pos rfl)

/-- **The field of a row** is markup already. -/
theorem writes_rowField {r : Row} {place : Value} {field : String}
    (h : r.value.attribute? field.toList = some (.text chars)) :
    Writes (vars.within rowName r.value place) depth (runOne m (rowField field)) chars :=
  writes_print (gives_safe (gives_attr gives_within h)) fun _ => rfl

theorem writes_rowContent {r : Row} {place : Value} :
    Writes (vars.within rowName r.value place) depth (run m rowContent) (rowText r) := by
  refine writes_cons (writes_text _) (writes_cons (writes_rowField rfl) ?_)
  refine writes_cons (writes_text _) (writes_cons (writes_rowField rfl) ?_)
  exact writes_last (writes_text _)

/-- **The field of an example** in the index. -/
theorem gives_itemField {e : IndexEntry} {place : Value} {field : String}
    (h : e.value.attribute? field.toList = some (.text chars)) :
    Gives m (vars.within itemName e.value place) depth (itemField field) (.text chars) :=
  gives_attr gives_within h

theorem writes_itemField {e : IndexEntry} {place : Value} {field : String}
    (h : e.value.attribute? field.toList = some (.text chars)) :
    Writes (vars.within itemName e.value place) depth (runOne m (.print (itemField field)))
      (escape chars) := writes_print (gives_itemField h) fun _ => rfl

theorem writes_itemContent {e : IndexEntry} {place : Value} :
    Writes (vars.within itemName e.value place) depth (run m itemContent) (itemText e) := by
  refine writes_cons (writes_text _) (writes_cons (writes_itemField rfl) ?_)
  refine writes_cons (writes_text _) (writes_cons (writes_itemField rfl) ?_)
  refine writes_cons (writes_text _) (writes_cons ?_ (writes_last (writes_text _)))
  have hfield : e.value.attribute? "description".toList = some (.text e.description) := rfl
  refine writes_branch (gives_itemField hfield) ?_
  cases hd : e.description with
  | nil => exact writes_nil
  | cons c rest =>
    rw [hd] at hfield
    exact writes_cons (writes_text _)
      (writes_cons (writes_itemField hfield) (writes_last (writes_text _)))

/-- The source has the built-in template of a name. -/
def Source.Keeps (s : Source) (name : String) : Prop :=
  s name.toList = Source.builtin name.toList

/-- The content of the page of an example, up to the pager. -/
def shownText (p : ExamplePage) : List Char :=
  ("\n<header class=\"example-header\">\n" ++
    "  <a href=\"index.html\" class=\"site-title\">").toList ++ (escape p.siteTitle ++
  ("</a>\n  <h1>".toList ++ (escape p.name ++
  ("</h1>\n</header>\n<table class=\"example\">\n".toList ++ (p.rows.flatMap rowText ++
  "\n</table>\n<nav class=\"pager\">\n  ".toList)))))

/-- **The links of the pager.** -/
def pagerText (previous next : Option (List Char)) : List Char :=
  previousLink.to previous ++ ("\n  ".toList ++ nextLink.to next)

theorem writes_exampleContent (p : ExamplePage) (hd : ¬ depth > State.scopeLimit) :
    Writes (pageVariables p.scope) depth (run m exampleContent)
      (shownText p ++ (pagerText p.previous p.next ++ "\n</nav>\n".toList)) := by
  have hname : ∀ {name : List Char} {chars : List Char}, p.scope.lookup name = some (.text chars) →
      Writes (pageVariables p.scope) depth (runOne m (.print (.var name))) (escape chars) :=
    fun h => writes_print_text (pageVariables_of_lookup h)
  unfold shownText pagerText exampleContent
  simp only [List.append_assoc]
  refine writes_cons (writes_text _) (writes_cons (hname rfl) ?_)
  refine writes_cons (writes_text _) (writes_cons (hname rfl) ?_)
  refine writes_cons (writes_text _) (writes_cons ?_ ?_)
  · exact writes_loop hd (gives_var (pageVariables_of_lookup rfl)) fun r _ _ => writes_rowContent
  · refine writes_cons (writes_text _) (writes_cons (writes_link (pageVariables_of_lookup rfl)) ?_)
    refine writes_cons (writes_text _) (writes_cons (writes_link (pageVariables_of_lookup rfl)) ?_)
    exact writes_last (writes_text _)

theorem load_builtin {name : String} {t : Document} {source : List Char} (h : s.Keeps name)
    (hb : builtin? name.toList = some source) (hr : Document.read source = .ok t) :
    s.load name.toList = .ok t := by
  unfold Source.load
  rw [h]
  unfold Source.builtin
  rw [hb]
  exact hr

/-- The content of the page of an example. -/
def exampleContentText (p : ExamplePage) : List Char :=
  shownText p ++ (pagerText p.previous p.next ++ "\n</nav>\n".toList)

/-- **The page of an example within a frame of its own.** -/
theorem renderExample_within {front back : List Stmt} {above below : List Char}
    (he : s.Keeps exampleName) (hbase : s.load baseName.toList = .ok (frameOf front back))
    (p : ExamplePage) (hfront : ∀ m, Writes (pageVariables p.scope) 1 (run m front) above)
    (hback : ∀ m, Writes (pageVariables p.scope) 1 (run m back) below) :
    renderExample s p = .ok (above ++ (exampleContentText p ++ below)) :=
  render_within hfront (fun _ => writes_exampleContent p (by decide)) hback
    (load_builtin he rfl read_examplePage) hbase (by decide +kernel)

/-- The page of an example up to the pager. -/
def abovePager (p : ExamplePage) : List Char := aboveContent p.siteTitle p.name ++ shownText p

/-- What follows on the pager. -/
def belowPager : List Char := "\n</nav>\n".toList ++ afterContent

/-- **The page of an example**: of the neighbours only the pager tells. -/
theorem renderExample_builtin (hb : s.Keeps baseName) (he : s.Keeps exampleName)
    (p : ExamplePage) : renderExample s p =
      .ok (abovePager p ++ (pagerText p.previous p.next ++ belowPager)) := by
  have hrender : renderExample s p = _ :=
    render_extending (pageVariables_of_lookup rfl) (pageVariables_of_lookup rfl)
      (fun _ => writes_exampleContent p (by decide))
      (load_builtin he rfl read_examplePage)
      (load_builtin hb rfl read_base)
      (by decide +kernel)
  rw [hrender]
  unfold framed abovePager belowPager
  simp only [List.append_assoc]

/-- The content of the index up to its list. -/
def headingText (siteTitle : List Char) : List Char :=
  "\n<header class=\"example-header\">\n  <h1>".toList ++ (escape siteTitle ++
    "</h1>\n</header>\n<ul class=\"example-list\">\n".toList)

/-- The index up to its list. -/
def aboveList (siteTitle : List Char) : List Char :=
  aboveContent siteTitle siteTitle ++ headingText siteTitle

/-- What follows on the list. -/
def belowList : List Char := "\n</ul>\n".toList ++ afterContent

theorem writes_indexContent (siteTitle : List Char) (examples : List IndexEntry)
    (hd : ¬ depth > State.scopeLimit) :
    Writes (pageVariables (indexScope siteTitle examples)) depth (run m indexContent)
      (headingText siteTitle ++ (examples.flatMap itemText ++ "\n</ul>\n".toList)) := by
  have htitle : Writes (pageVariables (indexScope siteTitle examples)) depth
      (runOne m (.print (.var siteTitleName))) (escape siteTitle) :=
    writes_print_text (pageVariables_of_lookup rfl)
  unfold headingText indexContent
  simp only [List.append_assoc]
  refine writes_cons (writes_text _) (writes_cons htitle ?_)
  refine writes_cons (writes_text _) (writes_cons ?_ (writes_last (writes_text _)))
  exact writes_loop hd (gives_var (pageVariables_of_lookup rfl))
    fun e _ _ => writes_itemContent

/-- The content of the index. -/
def indexContentText (siteTitle : List Char) (examples : List IndexEntry) : List Char :=
  headingText siteTitle ++ (examples.flatMap itemText ++ "\n</ul>\n".toList)

/-- **The index within a frame of its own.** -/
theorem renderIndex_within {front back : List Stmt} {above below : List Char}
    (hi : s.Keeps indexName) (hbase : s.load baseName.toList = .ok (frameOf front back))
    (siteTitle : List Char) (examples : List IndexEntry)
    (hfront : ∀ m, Writes (pageVariables (indexScope siteTitle examples)) 1 (run m front) above)
    (hback : ∀ m, Writes (pageVariables (indexScope siteTitle examples)) 1 (run m back) below) :
    renderIndex s siteTitle examples =
      .ok (above ++ (indexContentText siteTitle examples ++ below)) :=
  render_within hfront (fun _ => writes_indexContent siteTitle examples (by decide)) hback
    (load_builtin hi rfl read_index) hbase (by decide +kernel)

/-- **The index**: the examples are shown one after the other. -/
theorem renderIndex_builtin (hb : s.Keeps baseName) (hi : s.Keeps indexName)
    (siteTitle : List Char) (examples : List IndexEntry) :
    renderIndex s siteTitle examples =
      .ok (aboveList siteTitle ++ (examples.flatMap itemText ++ belowList)) := by
  have hrender : renderIndex s siteTitle examples = _ :=
    render_extending (pageVariables_of_lookup rfl) (pageVariables_of_lookup rfl)
      (fun _ => writes_indexContent siteTitle examples (by decide))
      (load_builtin hi rfl read_index)
      (load_builtin hb rfl read_base)
      (by decide +kernel)
  rw [hrender]
  unfold framed aboveList belowList
  simp only [List.append_assoc]

end LiterateSite.Template
