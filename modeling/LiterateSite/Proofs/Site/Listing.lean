import LiterateSite.Proofs.Site.Bystanders
import LiterateSite.Proofs.Site.Neighbours
import LiterateSite.Proofs.Text.Lines
import LiterateSite.Proofs.Text.Trim
import LiterateSite.Proofs.Text.Utf8

/-!
# The text of a manifest

* `Bare`, `Writes`: a text that lists ids, one a line, with blanks around them and blank lines at
  the end.
* `lines_written`: the first line of such a text.
* `idsOf`, `idsOf_cons`: what the lines list, one after the other.
* `manifestIds_of_writes`: **the ids are read back**, whatever the line ends and blanks.
* `Listable`, `Listable.found`: a directory that can be listed.
* `manifest_lists_in_order`: **the examples are those of the manifest in its order**, linked to each
  other, if there are as many directories.
-/

namespace LiterateSite.Site

open Files Files.Tree Text

variable {id front back tail ending text rest first : List Char} {ids : List String} {t : Tree}
  {directory m : Path} {root : Location} {layout : Layout} {s : Session}

/-! ## Texts that list ids -/

/-- An id that can stand in a line: not blank, without line end, and without blanks around it. -/
structure Bare (id : List Char) : Prop where
  ne_nil : id ≠ []
  no_end : '\n' ∉ id
  first : id.head?.any isBlank = false
  last : id.getLast?.any isBlank = false

instance (id : List Char) : Decidable (Bare id) :=
  decidable_of_iff (id ≠ [] ∧ '\n' ∉ id ∧ id.head?.any isBlank = false ∧
    id.getLast?.any isBlank = false)
    ⟨fun h => ⟨h.1, h.2.1, h.2.2.1, h.2.2.2⟩, fun h => ⟨h.1, h.2, h.3, h.4⟩⟩

/-- Blanks within a line. -/
structure Blanks (pad : List Char) : Prop where
  blank : isBlankText pad = true
  no_end : '\n' ∉ pad

instance (pad : List Char) : Decidable (Blanks pad) :=
  decidable_of_iff (isBlankText pad = true ∧ '\n' ∉ pad)
    ⟨fun h => ⟨h.1, h.2⟩, fun h => ⟨h.1, h.2⟩⟩

/-- What lines end with. -/
def lineEnds : List (List Char) := [['\n'], ['\r', '\n']]

/-- **A text that lists ids**, one a line, with blanks around each of them. Lines may end in
different ways, the last one need not, and blank lines may follow. -/
inductive Writes : List String → List Char → Prop
  | blank {tail : List Char} (h : isBlankText tail = true) : Writes [] tail
  | last {front id back : List Char} (hf : Blanks front) (hid : Bare id) (hb : Blanks back) :
    Writes [String.ofList id] (front ++ id ++ back)
  | line {front id back ending rest : List Char} {ids : List String} (hf : Blanks front)
    (hid : Bare id) (hb : Blanks back) (he : ending ∈ lineEnds) (h : Writes ids rest) :
    Writes (String.ofList id :: ids) (front ++ id ++ back ++ ending ++ rest)

theorem not_mem_padded (hf : Blanks front) (hid : Bare id) (hb : Blanks back) :
    '\n' ∉ front ++ id ++ back := by
  rw [List.mem_append, List.mem_append, not_or, not_or]
  exact ⟨⟨hf.no_end, hid.no_end⟩, hb.no_end⟩

theorem trim_padded (hf : Blanks front) (hid : Bare id) (hb : Blanks back) :
    trim (front ++ id ++ back) = id := by
  refine trimBoth_eq_iff.2 ⟨⟨front, back, rfl, List.all_eq_true.1 hf.blank,
    List.all_eq_true.1 hb.blank⟩, fun c hc => ?_, fun c hc => ?_⟩
  · have hfirst := hid.first
    rwa [Option.mem_def.1 hc] at hfirst
  · have hlast := hid.last
    rwa [Option.mem_def.1 hc] at hlast

/-- **The first line**, up to blanks: with one of the ends it may lose a blank at its end. -/
theorem lines_written {content : List Char} (hn : '\n' ∉ content) (he : ending ∈ lineEnds)
    (rest : List Char) :
    ∃ line, lines (content ++ ending ++ rest) = line :: lines rest ∧ trim line = trim content := by
  rcases List.mem_cons.1 he with rfl | he
  · rw [List.append_assoc, List.singleton_append]
    by_cases hr : content.getLast? = some '\r'
    · -- the last character of the content belongs to the line end
      obtain ⟨sooner, rfl⟩ := List.getLast?_eq_some_iff.1 hr
      rw [List.mem_append, not_or] at hn
      rw [List.append_assoc, List.singleton_append]
      refine ⟨sooner, lines_append_crlf hn.1 rest, (trimBoth_append sooner ?_).symm⟩
      exact fun c hc => List.mem_singleton.1 hc ▸ rfl
    · exact ⟨content, lines_append hn hr rest, rfl⟩
  · rw [List.mem_singleton.1 he, List.append_assoc]
    exact ⟨content, lines_append_crlf hn rest, rfl⟩

/-- The ids that trimmed lines list. -/
def idsOf (trimmed : List (List Char)) : List String :=
  ((trimmed.reverse.dropWhile List.isEmpty).reverse).map String.ofList

theorem manifestIds_eq (text : List Char) : manifestIds text = idsOf ((lines text).map trim) := rfl

/-- **A line that is not blank** lists an id, whatever follows. -/
theorem idsOf_cons (h : first ≠ []) (later : List (List Char)) :
    idsOf (first :: later) = String.ofList first :: idsOf later := by
  have hdrop : (first :: later).reverse.dropWhile List.isEmpty =
      later.reverse.dropWhile List.isEmpty ++ [first] := by
    rw [List.reverse_cons, List.dropWhile_append]
    have hfirst : first.isEmpty = false := by simpa using h
    split
    · next hempty =>
      rw [List.isEmpty_iff.1 hempty, List.dropWhile_cons_of_neg (by simp [hfirst])]
      rfl
    · rfl
  unfold idsOf
  rw [hdrop, List.reverse_append, List.map_append]
  rfl

/-- Blank lines at the end list nothing. -/
theorem idsOf_blank {trimmed : List (List Char)} (h : ∀ line ∈ trimmed, line = []) :
    idsOf trimmed = [] := by
  unfold idsOf
  have hdrop : trimmed.reverse.dropWhile List.isEmpty = [] := by
    refine List.dropWhile_eq_nil_iff.2 fun line hl => ?_
    rw [h line (List.mem_reverse.1 hl)]
    rfl
  rw [hdrop]
  rfl

/-- **The ids are read back**, whatever the line ends and blanks. -/
theorem manifestIds_of_writes (h : Writes ids text) : manifestIds text = ids := by
  -- on the lines of the text: each lists its id, whatever the lines after it list
  induction h with
  | blank h =>
    rw [manifestIds_eq]
    refine idsOf_blank fun line hl => ?_
    obtain ⟨line', hl', rfl⟩ := List.mem_map.1 hl
    exact trimBoth_eq_nil fun c hc => List.all_eq_true.1 h c (mem_of_mem_lines hl' hc)
  | @last front id back hf hid hb =>
    have hne : front ++ id ++ back ≠ [] := by simp [hid.ne_nil]
    rw [manifestIds_eq, lines_unended (not_mem_padded hf hid hb) hne, List.map_singleton,
      trim_padded hf hid hb, idsOf_cons hid.ne_nil]
    rfl
  | @line front id back ending rest ids hf hid hb he _ ih =>
    obtain ⟨line, hlines, htrim⟩ := lines_written (not_mem_padded hf hid hb) he rest
    rw [manifestIds_eq, hlines, List.map_cons, htrim, trim_padded hf hid hb, idsOf_cons hid.ne_nil,
      ← manifestIds_eq, ih]

/-! ## Directories that can be listed -/

/-- A directory that can be listed: every entry can be looked at, and the directories in it have
names that are text. -/
structure Listable (t : Tree) (directory : Path) (root : Location) : Prop where
  place : t.resolve directory = .ok root
  isDirectory : t.get? root = some .directory
  looked : ∀ n ∈ t.names root, ∃ x, entryAt t directory root n = .ok x
  named : ∀ bytes, Name.raw bytes ∈ t.names root →
    entryAt t directory root (.raw bytes) ≠ .ok .directory

/-- The names of the directories in a directory. -/
def subdirectories (t : Tree) (directory : Path) (root : Location) : List Name :=
  (t.names root).filter fun n => entryAt t directory root n = .ok .directory

theorem idsAmong_listable (names : List Name)
    (hlooked : ∀ n ∈ names, ∃ x, entryAt t directory root n = .ok x)
    (hnamed : ∀ bytes, Name.raw bytes ∈ names →
      entryAt t directory root (.raw bytes) ≠ .ok .directory) :
    ∃ found, (idsAmong t directory root names).2 = .ok found := by
  induction names with
  | nil => exact ⟨[], rfl⟩
  | cons n rest ih =>
    obtain ⟨more, hmore⟩ := ih (fun m hm => hlooked m (List.mem_cons_of_mem _ hm))
      fun bytes hb => hnamed bytes (List.mem_cons_of_mem _ hb)
    obtain ⟨x, hx⟩ := hlooked n List.mem_cons_self
    by_cases hd : x = .directory
    · subst hd
      cases n with
      | raw bytes => exact absurd hx (hnamed bytes List.mem_cons_self)
      | text chars =>
        refine ⟨String.ofList chars :: more, ?_⟩
        rw [idsAmong_directory hx, hmore]
        rfl
    · refine ⟨more, ?_⟩
      rw [idsAmong_skip hx hd]
      exact hmore

/-- **A directory that can be listed** has an id for each directory in it. -/
theorem Listable.found (h : Listable t directory root) :
    ∃ found, (directoryIds t directory).2 = .ok found ∧
      found.length = (subdirectories t directory root).length := by
  obtain ⟨found, hfound⟩ := idsAmong_listable (t.names root) h.looked h.named
  refine ⟨found, ?_, ?_⟩
  · unfold directoryIds
    rw [h.place]
    exact hfound
  · have hids := congrArg List.length (idsAmong_ok _ found hfound)
    rwa [List.length_map] at hids

/-- **The ids of the tree** are those of the manifest, if there are as many directories. -/
theorem enumeratedIds_listed (h : Listable t layout.examples root) (hm : layout.manifest = some m)
    (hread : t.read m = .ok (Utf8.encode text)) :
    enumeratedIds layout t =
      if (manifestIds text).length = (subdirectories t layout.examples root).length then
        .ok (manifestIds text)
      else .error (.config (.manifestCount m (manifestIds text).length layout.examples
        (subdirectories t layout.examples root).length)) := by
  obtain ⟨found, hfound, hlen⟩ := h.found
  have hdir : t.isDir layout.examples = true :=
    isDir_iff.2 ⟨root, toOption_eq_some.2 h.place, h.isDirectory⟩
  have htext : t.readText m = .ok text := by
    unfold readText Utf8.decode?
    rw [hread]
    simp only [Utf8.decodeLossy_encode, if_true]
  have hordered : enumeratedIds layout t = orderedIds t layout found := by
    unfold enumeratedIds
    rw [if_pos hdir, hfound]
    rfl
  rw [hordered, ← hlen]
  unfold orderedIds
  rw [hm]
  simp only [htext, beq_iff_eq]

/-! ## The catalog -/

/-- **A manifest lists the examples in order.** It is accepted exactly if it lists as many ids as
there are directories. Then the examples have these ids in this order, each with its neighbours in
the list, and if no id is listed twice, the links lead from the first example through all of them to
the last one, and back. -/
theorem manifest_lists_in_order (hl : Listable s.files layout.examples root)
    (hm : layout.manifest = some m) (hread : s.files.read m = .ok (Utf8.encode text))
    (hw : Writes ids text) :
    let count := (subdirectories s.files layout.examples root).length
    (ids.length = count → ∃ entries, (catalog layout s).1 = .ok entries ∧
      entries.map Entry.id = ids ∧
      (∀ i e, entries[i]? = some e →
        e.previous = (if i = 0 then none else ids[i - 1]?) ∧ e.next = ids[i + 1]?) ∧
      (ids.Nodup → entries.Nodup ∧
        (∀ first, entries.head? = some first → ∀ n,
          follow entries Entry.next n first = entries[n]?) ∧
        (∀ last, entries.getLast? = some last → ∀ n,
          follow entries Entry.previous n last = entries.reverse[n]?))) ∧
    (ids.length ≠ count → (catalog layout s).1 =
      .error (.config (.manifestCount m ids.length layout.examples count))) := by
  intro count
  have hids := enumeratedIds_listed hl hm hread
  rw [manifestIds_of_writes hw] at hids
  rw [catalog_result, hids]
  constructor
  · intro hlen
    rw [if_pos hlen]
    refine ⟨entriesOf layout ids, rfl, Layout.ids_entriesOf ids, fun i e he => neighbours_at he,
      fun hn => ⟨?_, fun first hf n => follow_next hn hf n,
        fun last hlast n => follow_previous hn hlast n⟩⟩
    refine List.Nodup.of_map Entry.id ?_
    rwa [Layout.ids_entriesOf]
  · intro hlen
    rw [if_neg hlen]
    rfl

/-- Two ids with blanks around them, lines that end in two ways, and blank lines. -/
def twoPadded : String := "  b\t\r\n\ta \n\n \r\n"

theorem writes_twoPadded : Writes ["b", "a"] twoPadded.toList := by
  have hblank : Writes [] "\n \r\n".toList := .blank (by decide)
  have ha : Writes ["a"] "\ta \n\n \r\n".toList :=
    @Writes.line ['\t'] ['a'] [' '] ['\n'] _ _ (by decide) (by decide)
      (by decide) (by decide) hblank
  exact @Writes.line [' ', ' '] ['b'] ['\t'] ['\r', '\n'] _ _ (by decide)
    (by decide) (by decide) (by decide) ha

theorem listable_twoExamples (manifest : String) :
    Listable (twoExamples manifest) (Path.ofString "examples") [.text "examples".toList] := by
  have hnames : (twoExamples manifest).names [.text "examples".toList] =
      [.text ['a'], .text ['b']] := rfl
  refine ⟨rfl, rfl, fun n hn => ?_, fun bytes hb => ?_⟩
  · rw [hnames] at hn
    rcases List.mem_pair.1 hn with rfl | rfl <;> exact ⟨.directory, rfl⟩
  · rw [hnames] at hb
    simp at hb

/-- Two examples in the order of their manifest. -/
theorem manifest_lists_in_order_two :
    let layout : Layout := { manifest := some (Path.ofString "order.txt") }
    ∃ entries, (catalog layout { files := twoExamples twoPadded }).1 = .ok entries ∧
      entries.map Entry.id = ["b", "a"] ∧
      ∀ first, entries.head? = some first → ∀ n,
        follow entries Entry.next n first = entries[n]? := by
  intro layout
  let s : Session := { files := twoExamples twoPadded }
  have hread : s.files.read (Path.ofString "order.txt") =
      .ok (Utf8.encode twoPadded.toList) := by decide +kernel
  obtain ⟨hlisted, -⟩ := @manifest_lists_in_order _ _ _ _ layout s (listable_twoExamples _) rfl
    hread writes_twoPadded
  have hcount : (subdirectories s.files layout.examples [.text "examples".toList]).length = 2 := by
    decide +kernel
  obtain ⟨entries, hrun, hids, -, hlinks⟩ := hlisted hcount.symm
  exact ⟨entries, hrun, hids, (hlinks (by decide)).2.1⟩

end LiterateSite.Site
