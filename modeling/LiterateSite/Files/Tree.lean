import LiterateSite.Files.Path

/-!
# File trees

A file system as a tree of places with names. It holds directories, files and symbolic links. What
is left out:

* hard links: no two places share their content;
* permissions: every place may be looked at, and changed;
* the limit on the length of a whole path: there is only the one on a single name;
* writes that stop half-way: a file is written as a whole, or it stays as it is.

The definitions:

* `Location`: a place in the tree, by the names that lead to it.
* `Entry`: what is at a place.
* `Tree`: the places that hold something.
* `get?_insert`, `get?_erase`: what is at a place after a change.
-/

namespace LiterateSite.Files

/-- A place, by the names that lead to it from the root, the last name first. -/
abbrev Location := List Name

/-- What is at a place. -/
inductive Entry where
  | directory
  | file (content : List UInt8)
  /-- A symbolic link. -/
  | link (target : List Char)
  deriving DecidableEq, Repr, Inhabited

/-- A file tree, and the place that relative paths begin at. -/
structure Tree where
  /-- The places below the root that hold something, in the order in which they came to be. -/
  entries : List (Location × Entry) := []
  workDir : Location := []
  deriving DecidableEq, Repr, Inhabited

namespace Tree

/-- What is at a place. The root is always there. -/
def get? (t : Tree) (l : Location) : Option Entry :=
  if l.isEmpty then some .directory else t.entries.lookup l

/-- Put an entry to its place. -/
def put (l : Location) (e : Entry) : List (Location × Entry) → List (Location × Entry)
  | [] => [(l, e)]
  | (k, old) :: rest => if k == l then (k, e) :: rest else (k, old) :: put l e rest

/-- The tree with an entry at a place. -/
def insert (t : Tree) (l : Location) (e : Entry) : Tree := { t with entries := put l e t.entries }

/-- The tree with nothing at a place. -/
def erase (t : Tree) (l : Location) : Tree :=
  { t with entries := t.entries.filter fun (k, _) => k != l }

/-- The tree with nothing at a place and below it. -/
def eraseAll (t : Tree) (l : Location) : Tree :=
  { t with entries := t.entries.filter fun (k, _) => !l.isSuffixOf k }

/-- The name of a place, if it lies directly in a directory. -/
def childName? (directory : Location) : Location → Option Name
  | [] => none
  | n :: outer => if outer == directory then some n else none

/-- The names in a directory. -/
def names (t : Tree) (directory : Location) : List Name :=
  t.entries.filterMap fun (k, _) => childName? directory k

theorem lookup_put_self (l : Location) (e : Entry) (es : List (Location × Entry)) :
    (put l e es).lookup l = some e := by
  induction es with
  | nil => simp [put]
  | cons x rest ih =>
    obtain ⟨k, old⟩ := x
    by_cases h : k = l
    · subst h
      simp [put]
    · have h' : (l == k) = false := by simp [Ne.symm h]
      simp [put, h, List.lookup_cons, h', ih]

theorem lookup_put_of_ne {l k : Location} (h : k ≠ l) (e : Entry) (es : List (Location × Entry)) :
    (put l e es).lookup k = es.lookup k := by
  have hkl : (k == l) = false := by simp [h]
  induction es with
  | nil => simp [put, List.lookup_cons, hkl]
  | cons x rest ih =>
    obtain ⟨j, old⟩ := x
    by_cases hj : j = l
    · subst hj
      simp [put, List.lookup_cons, hkl]
    · by_cases hk : k = j
      · subst hk
        simp [put, hj]
      · have h' : (k == j) = false := by simp [hk]
        simp [put, hj, List.lookup_cons, h', ih]

/-- **What is at a place after an insertion.** -/
theorem get?_insert (t : Tree) {l : Location} (hl : l ≠ []) (e : Entry) (k : Location) :
    (t.insert l e).get? k = if k = l then some e else t.get? k := by
  unfold get? insert
  by_cases hk : k = l
  · subst hk
    simp [hl, lookup_put_self]
  · by_cases hn : k = []
    · simp [hn, Ne.symm hl]
    · simp [hn, hk, lookup_put_of_ne hk]

theorem lookup_filter_ne {l k : Location} (h : k ≠ l) (es : List (Location × Entry)) :
    (es.filter fun (j, _) => j != l).lookup k = es.lookup k := by
  induction es with
  | nil => rfl
  | cons x rest ih =>
    obtain ⟨j, old⟩ := x
    by_cases hj : j = l
    · subst hj
      have h' : (k == j) = false := by simp [h]
      simp [List.lookup_cons, h', ih]
    · by_cases hk : k = j
      · subst hk
        simp [hj]
      · have h' : (k == j) = false := by simp [hk]
        simp [hj, List.lookup_cons, h', ih]

theorem lookup_filter_self (l : Location) (es : List (Location × Entry)) :
    (es.filter fun (j, _) => j != l).lookup l = none := by
  induction es with
  | nil => rfl
  | cons x rest ih =>
    obtain ⟨j, old⟩ := x
    by_cases hj : j = l
    · subst hj
      simpa using ih
    · have h' : (l == j) = false := by simp [Ne.symm hj]
      simp [hj, List.lookup_cons, h', ih]

/-- **What is at a place after a removal.** -/
theorem get?_erase (t : Tree) {l : Location} (hl : l ≠ []) (k : Location) :
    (t.erase l).get? k = if k = l then none else t.get? k := by
  unfold get? erase
  by_cases hk : k = l
  · subst hk
    simp [hl, lookup_filter_self]
  · by_cases hn : k = []
    · simp [hn, Ne.symm hl]
    · simp [hn, hk, lookup_filter_ne hk]

end Tree

end LiterateSite.Files
