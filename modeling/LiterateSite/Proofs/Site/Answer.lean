import Mathlib.Data.List.Induction
import LiterateSite.Proofs.Site.History

/-!
# When an example is run

* `Act.About`, `LastAnswer`: **the last thing that has happened to an example is an answered call.**
* `Refreshed.of_error`, `Refreshed.of_ok`: the ends of a run, as far as they concern the kept files.
* `Ensured.answer`: **a call that is answered leaves both kept files, and they say the answer**; one
  that is not leaves at most one of them.
* `Remembers`, `remembers_history`: **kept files that are both there say the last answer**, at all
  times.
* `run_exactly_when_needed`: **a call runs its example exactly if the kept files do not say the
  answer.**
-/

namespace LiterateSite.Site

open Files Files.Tree Text

/-- The act is about an example. -/
def Act.About (e : Entry) : Act → Prop
  | .call e' _ _ => e' = e
  | .lose e' _ => e' = e

/-- Of all that has happened to an example the last is a call, which was answered: no other call for
it and no loss of its kept files has followed. -/
def LastAnswer (t : Tree) (acts : List Act) (e : Entry) (x : Transcript) : Prop :=
  ∃ before source runner after, acts = before ++ .call e source runner :: after ∧
    (callOn (Past.history { files := t } before).files e source runner).1 = .ok x ∧
    ∀ a ∈ after, ¬ a.About e

variable {E : Set Entry} {e e' : Entry} {runner : Runner} {source : List UInt8} {t t' : Tree}
  {s s' : Session} {acts : List Act} {a : Act} {k : Kept}

/-! ## The last answer -/

/-- **The last answer after one more act**: that of the act, if it is about the example. -/
theorem lastAnswer_concat {x : Transcript} : LastAnswer t (acts ++ [a]) e x ↔
    (∃ source runner, a = .call e source runner ∧
      (callOn (Past.history { files := t } acts).files e source runner).1 = .ok x) ∨
    (¬ a.About e ∧ LastAnswer t acts e x) := by
  constructor
  · rintro ⟨before, source, runner, after, hacts, hx, hafter⟩
    -- either the call is the last act, or the last act follows it
    rcases List.eq_nil_or_concat after with rfl | ⟨more, b, rfl⟩
    · obtain ⟨rfl, hb⟩ := List.append_inj' hacts rfl
      rw [List.singleton_inj] at hb
      exact .inl ⟨source, runner, hb, hx⟩
    · rw [List.concat_eq_append] at hacts hafter
      rw [← List.cons_append, ← List.append_assoc] at hacts
      obtain ⟨rfl, hb⟩ := List.append_inj' hacts rfl
      rw [List.singleton_inj] at hb
      subst hb
      exact .inr ⟨hafter a (List.mem_append_right _ List.mem_cons_self), before, source, runner,
        more, rfl, hx, fun c hc => hafter c (List.mem_append_left _ hc)⟩
  · rintro (⟨source, runner, rfl, hx⟩ | ⟨hna, before, source, runner, after, rfl, hx, hafter⟩)
    · exact ⟨acts, source, runner, [], rfl, hx, fun _ h => absurd h List.not_mem_nil⟩
    · refine ⟨before, source, runner, after ++ [a], by simp, hx, fun c hc => ?_⟩
      rcases List.mem_append.1 hc with hc | hc
      · exact hafter c hc
      · rw [List.mem_singleton.1 hc]
        exact hna

theorem not_lastAnswer_nil {x : Transcript} : ¬ LastAnswer t [] e x := by
  rintro ⟨before, source, runner, after, hacts, -⟩
  exact absurd hacts.symm (List.append_ne_nil_of_right_ne_nil _ (List.cons_ne_nil _ _))

theorem lastAnswer_other {x : Transcript} (h : ¬ a.About e) :
    LastAnswer t (acts ++ [a]) e x ↔ LastAnswer t acts e x := by
  rw [lastAnswer_concat]
  refine ⟨fun hx => ?_, fun hx => .inr ⟨h, hx⟩⟩
  rcases hx with ⟨source, runner, rfl, -⟩ | ⟨-, hx⟩
  · exact absurd rfl h
  · exact hx

theorem lastAnswer_call {x : Transcript} : LastAnswer t (acts ++ [.call e source runner]) e x ↔
    (callOn (Past.history { files := t } acts).files e source runner).1 = .ok x := by
  rw [lastAnswer_concat]
  refine ⟨fun hx => ?_, fun hx => .inl ⟨source, runner, rfl, hx⟩⟩
  rcases hx with ⟨source', runner', heq, hx⟩ | ⟨hna, -⟩
  · cases heq
    exact hx
  · exact absurd rfl hna

theorem not_lastAnswer_lose {x : Transcript} : ¬ LastAnswer t (acts ++ [.lose e k]) e x := by
  rw [lastAnswer_concat]
  rintro (⟨source, runner, heq, -⟩ | ⟨hna, -⟩)
  · cases heq
  · exact hna rfl

/-- The last answer is for a source. -/
theorem LastAnswer.digest {x : Transcript} (h : LastAnswer t acts e x) :
    ∃ source, x.digest = sourceDigest e.id source := by
  obtain ⟨before, source, runner, after, -, hx, -⟩ := h
  exact ⟨source, (callOn_ok hx).1⟩

/-! ## What a call leaves -/

/-- A failure: the digest cannot be removed, and nothing has happened; or the example has been run,
and there is no digest. -/
theorem Refreshed.of_error {digest : String} {err : BuildError}
    (h : Refreshed runner e digest s (.error err) s') (ha : Apart E s.files) (he : e ∈ E)
    (hr : runner.Spares E) : (∃ cause, removeIfThere s.files e.hashPath = .error cause) ∨
      (s'.runs = s.runs ++ [e.source] ∧ s'.files.content? e.hashPath = none) := by
  cases h with
  | stuck hd => exact .inl ⟨_, hd⟩
  | failed hd ho => exact .inr ⟨rfl, (ha.run_without_digest he hr hd).2⟩
  | unwritten hd ho hx => exact .inr ⟨rfl, (ha.run_without_digest he hr hd).2⟩
  | unsealed hd ho hx hh =>
    obtain ⟨h₂, hn⟩ := ha.run_without_digest he hr hd
    exact .inr ⟨rfl, (h₂.transcript_written he hx).2.2.trans hn⟩

/-- A success: the example has been run, and its digest and its text are kept. -/
theorem Refreshed.of_ok {digest : String} {text : List Char}
    (h : Refreshed runner e digest s (.ok text) s') (ha : Apart E s.files) (he : e ∈ E)
    (hr : runner.Spares E) : s'.runs = s.runs ++ [e.source] ∧
      s'.files.content? e.hashPath = some (Utf8.ofString digest) ∧
      s'.files.content? e.transcriptPath = some (Utf8.encode text) := by
  cases h with
  | done hd ho hx hh =>
    obtain ⟨h₃, ht, -⟩ := (ha.run_without_digest he hr hd).1.transcript_written he hx
    obtain ⟨-, hd', hk⟩ := h₃.apart.digest_written he hh
    exact ⟨rfl, hd', hk.trans ht⟩

/-- Kept files that have been looked at can be removed. -/
theorem Apart.not_stuck (ha : Apart E t) (he : e ∈ E) {digest : String}
    {found : Status × List Char} (hl : lookUp t e digest = .ok found) {cause : IoError} :
    removeIfThere t e.hashPath ≠ .error cause := by
  intro hd
  obtain ⟨hne, hread⟩ := removeIfThere_error (ha.plain e he .digest) hd
  exact hne (read_of_lookUp hl hread)

/-- Kept files that are a hit are given as they are, and nothing is run. -/
theorem Ensured.of_hit {r : Except BuildError Transcript} {text : List Char}
    (h : Ensured runner e source s r s')
    (hl : lookUp s.files e (sourceDigest e.id source) = .ok (.hit, text)) :
    r = .ok ⟨text, sourceDigest e.id source, .hit⟩ ∧ s' = s.reporting (.cacheHit e.id) := by
  cases h with
  | unread hl' => cases hl.symm.trans hl'
  | hit hl' => cases hl.symm.trans hl'; exact ⟨rfl, rfl⟩
  | missed hs hl' hr => cases hl.symm.trans hl'; exact absurd rfl hs
  | renewed hs hl' hr => cases hl.symm.trans hl'; exact absurd rfl hs

/-- **Without a hit the example is run once**, if the kept files can be looked at. Else the call
changes nothing. -/
theorem Ensured.of_miss {r : Except BuildError Transcript} (h : Ensured runner e source s r s')
    (ha : Apart E s.files) (he : e ∈ E) (hr : runner.Spares E)
    (hn : ¬ ∃ text, lookUp s.files e (sourceDigest e.id source) = .ok (.hit, text)) :
    s'.runs = s.runs ++ [e.source] ∨
      ∃ k cause, cause ≠ .notFound ∧ s.files.read (e.kept k) = .error cause ∧
        r = .error (.io (e.kept k) cause) ∧ s' = s := by
  cases h with
  | unread hl =>
    obtain ⟨k, cause, hne, hread, rfl⟩ := lookUp_error hl
    exact .inr ⟨k, cause, hne, hread, rfl, rfl⟩
  | hit hl => exact absurd ⟨_, hl⟩ hn
  | missed hs hl h =>
    rcases h.of_error ha he hr with ⟨cause, hd⟩ | ⟨hruns, -⟩
    · exact absurd hd (ha.not_stuck he hl)
    · exact .inl hruns
  | renewed hs hl h => exact .inl (h.of_ok ha he hr).1

/-- **A call that is answered leaves both kept files, and they say the answer**; one that is not
leaves at most one of them. -/
theorem Ensured.answer {r : Except BuildError Transcript} (h : Ensured runner e source s r s')
    (ha : Apart E s.files) (he : e ∈ E) (hr : runner.Spares E)
    (hk : ∀ known bytes, s.files.content? e.hashPath = some known →
      s.files.content? e.transcriptPath = some bytes →
        ∃ source' text, known = Utf8.ofString (sourceDigest e.id source') ∧
          bytes = Utf8.encode text) (known bytes : List UInt8) :
    (s'.files.content? e.hashPath = some known ∧
      s'.files.content? e.transcriptPath = some bytes) ↔
        ∃ x, r = .ok x ∧ known = Utf8.ofString x.digest ∧ bytes = Utf8.encode x.text := by
  cases h with
  | unread hl =>
    refine ⟨fun ⟨hh, hx⟩ => ?_, fun ⟨x, hx, _⟩ => by cases hx⟩
    -- files with a content can be looked at
    obtain ⟨k, cause, hne, hread, -⟩ := lookUp_error hl
    cases k with
    | digest => cases (read_eq_ok.2 hh).symm.trans hread
    | transcript => cases (read_eq_ok.2 hx).symm.trans hread
  | hit hl =>
    obtain ⟨known', bytes', hh, htrim, hx, rfl⟩ := lookUp_hit hl
    obtain ⟨source', text, rfl, rfl⟩ := hk known' bytes' hh hx
    have hdigest := (kept_digest_iff e.id source' source).1 htrim
    have hsame : s.files.content? e.hashPath =
        some (Utf8.ofString (sourceDigest e.id source)) := by rw [hh, hdigest]
    constructor
    · rintro ⟨hh', hx'⟩
      refine ⟨_, rfl, Option.some.inj (hh'.symm.trans hsame), ?_⟩
      rw [Utf8.decodeLossy_encode]
      exact Option.some.inj (hx'.symm.trans hx)
    · rintro ⟨x, heq, rfl, rfl⟩
      cases heq
      rw [Utf8.decodeLossy_encode]
      exact ⟨hsame, hx⟩
  | missed hs hl h =>
    refine ⟨fun ⟨hh, hx⟩ => ?_, fun ⟨x, hx, _⟩ => by cases hx⟩
    rcases h.of_error ha he hr with ⟨cause, hd⟩ | ⟨-, hnone⟩
    · exact absurd hd (ha.not_stuck he hl)
    · exact absurd (hh.symm.trans hnone) (Option.some_ne_none _)
  | renewed hs hl h =>
    obtain ⟨-, hd, ht⟩ := h.of_ok ha he hr
    constructor
    · rintro ⟨hh, hx⟩
      exact ⟨_, rfl, Option.some.inj (hh.symm.trans hd), Option.some.inj (hx.symm.trans ht)⟩
    · rintro ⟨x, heq, rfl, rfl⟩
      cases heq
      exact ⟨hd, ht⟩

/-- A call that cannot look at the digest. -/
theorem callOn_unread {cause : IoError} (h : t.read e.hashPath = .error cause)
    (hne : cause ≠ .notFound) (source : List UInt8) (runner : Runner) :
    callOn t e source runner = (.error (.io e.hashPath cause), { files := t }) := by
  unfold callOn ensureFresh
  rw [Building.bind_ok (Building.files_run _)]
  unfold lookUp
  rw [readOptional_of_error h hne]
  rfl

/-! ## Histories -/

/-- The kept files of an example are both there exactly if its last act is an answered call, and
then they say the answer. -/
def Remembers (t : Tree) (acts : List Act) (e : Entry) : Prop :=
  ∀ known bytes,
    ((Past.history { files := t } acts).files.content? e.hashPath = some known ∧
      (Past.history { files := t } acts).files.content? e.transcriptPath = some bytes) ↔
    ∃ x, LastAnswer t acts e x ∧ known = Utf8.ofString x.digest ∧ bytes = Utf8.encode x.text

/-- An act that leaves the kept files of an example as they are, and is not about it. -/
theorem Remembers.other (h : Remembers t acts e) (ha : ¬ a.About e)
    (hk : ∀ k, (Past.history { files := t } (acts ++ [a])).files.content? (e.kept k) =
      (Past.history { files := t } acts).files.content? (e.kept k)) :
    Remembers t (acts ++ [a]) e := by
  intro known bytes
  have hh : (Past.history { files := t } (acts ++ [a])).files.content? e.hashPath = _ := hk .digest
  have hx : (Past.history { files := t } (acts ++ [a])).files.content? e.transcriptPath = _ :=
    hk .transcript
  rw [hh, hx]
  simp only [lastAnswer_other ha]
  exact h known bytes

theorem history_concat (past : Past) (acts : List Act) (a : Act) :
    past.history (acts ++ [a]) = (past.history acts).after a := List.foldl_concat ..

theorem remembers_call (hapart : Apart E (Past.history { files := t } acts).files)
    (h : ∀ e ∈ E, Remembers t acts e) (he : e ∈ E) (hr : runner.Spares E) :
    ∀ e' ∈ E, Remembers t (acts ++ [.call e source runner]) e' := by
  intro e' he'
  by_cases hee : e' = e
  · subst hee
    intro known bytes
    rw [history_concat]
    simp only [lastAnswer_call]
    refine (callOn_ensured _ e' source runner).answer hapart he hr ?_ known bytes
    intro known' bytes' hh hx
    -- what is kept is an answer, so its digest is that of a source
    obtain ⟨y, hy, rfl, rfl⟩ := (h e' he known' bytes').1 ⟨hh, hx⟩
    obtain ⟨source', hd⟩ := hy.digest
    exact ⟨source', y.text, by rw [hd], rfl⟩
  · refine (h e' he').other (fun heq => hee heq.symm) fun k => ?_
    rw [history_concat]
    exact (callOn_confined hapart he hr source).others e' he' hee k

theorem remembers_lose (hapart : Apart E (Past.history { files := t } acts).files)
    (h : ∀ e ∈ E, Remembers t acts e) (he : e ∈ E) (k : Kept) :
    ∀ e' ∈ E, Remembers t (acts ++ [.lose e k]) e' := by
  intro e' he'
  have hs := sets_without (hapart.plain e he k)
  by_cases hee : e' = e
  · subst hee
    intro known bytes
    rw [history_concat]
    refine ⟨fun ⟨hh, hx⟩ => ?_, fun ⟨x, hx, _⟩ => absurd hx not_lastAnswer_lose⟩
    -- one of the two files is the one that has been lost
    cases k with
    | digest => exact absurd (hh.symm.trans hs.here) (Option.some_ne_none _)
    | transcript => exact absurd (hx.symm.trans hs.here) (Option.some_ne_none _)
  · refine (h e' he').other (fun heq => hee heq.symm) fun k' => ?_
    rw [history_concat]
    exact hapart.content?_sets he hs he' fun heq => hee (Prod.mk.inj heq).1.symm

/-- **Kept files that are both there say the last answer**, at all times. -/
theorem remembers_history (ha : Apart E t) (hn : ∀ e ∈ E, ∀ k, t.content? (e.kept k) = none)
    (hw : ∀ a ∈ acts, a.Within E) : Apart E (Past.history { files := t } acts).files ∧
      ∀ e ∈ E, Remembers t acts e := by
  -- one act after the other, beginning with the first
  induction acts using List.reverseRecOn with
  | nil =>
    refine ⟨ha, fun e he known bytes => ⟨fun h => ?_, fun ⟨x, hx, _⟩ => ?_⟩⟩
    · exact absurd (h.1.symm.trans (hn e he .digest)) (Option.some_ne_none _)
    · exact absurd hx not_lastAnswer_nil
  | append_singleton acts a ih =>
    obtain ⟨hapart, hmem⟩ := ih fun b hb => hw b (List.mem_append_left _ hb)
    have hwithin : a.Within E := hw a (List.mem_append_right _ List.mem_cons_self)
    cases a with
    | call e source runner =>
      refine ⟨?_, remembers_call hapart hmem hwithin.1 hwithin.2⟩
      rw [history_concat]
      exact (callOn_confined hapart hwithin.1 hwithin.2 source).apart
    | lose e k =>
      refine ⟨?_, remembers_lose hapart hmem hwithin k⟩
      rw [history_concat]
      exact hapart.sameShape (sets_without (hapart.plain e hwithin k)).shape

/-- **The kept files are a hit exactly if they say the last answer**, and it is one for a source of
the same digest. -/
theorem Remembers.hit_iff (h : Remembers t acts e) (source : List UInt8) :
    (∃ text, lookUp (Past.history { files := t } acts).files e (sourceDigest e.id source) =
      .ok (.hit, text)) ↔ ∃ x, LastAnswer t acts e x ∧ x.digest = sourceDigest e.id source := by
  constructor
  · rintro ⟨text, hl⟩
    obtain ⟨known, bytes, hh, htrim, hx, -⟩ := lookUp_hit hl
    obtain ⟨x, hx, rfl, -⟩ := (h known bytes).1 ⟨hh, hx⟩
    obtain ⟨source', hd⟩ := hx.digest
    rw [hd] at htrim
    exact ⟨x, hx, hd.trans ((kept_digest_iff e.id source' source).1 htrim)⟩
  · rintro ⟨x, hx, hd⟩
    obtain ⟨hh, ht⟩ := (h _ _).2 ⟨x, hx, rfl, rfl⟩
    refine ⟨_, lookUp_of_both hh ?_ ht⟩
    rw [hd]
    exact (kept_digest_iff e.id source source).2 rfl

/-- A hit gives the text of the last answer. -/
theorem Remembers.text_eq (h : Remembers t acts e) {digest : String} {text : List Char}
    (hl : lookUp (Past.history { files := t } acts).files e digest = .ok (.hit, text))
    {x : Transcript} (hx : LastAnswer t acts e x) : text = x.text := by
  obtain ⟨known, bytes, hh, -, ht, rfl⟩ := lookUp_hit hl
  obtain ⟨-, ht'⟩ := (h _ _).2 ⟨x, hx, rfl, rfl⟩
  rw [Option.some.inj (ht.symm.trans ht'), Utf8.decodeLossy_encode]

/-- **An example is run exactly when it has to be.** Whatever calls and losses there have been since
no file was kept: a call is a hit and runs nothing exactly if the last that has happened to its
example is a call that was answered, for a source of the same digest. A hit changes no file and
gives the text of that answer. Any other call runs the example once, unless a kept file cannot be
looked at; then the call fails for this reason and changes nothing. -/
theorem run_exactly_when_needed (E : Set Entry) (t : Tree) (acts : List Act) (ha : Apart E t)
    (hn : ∀ e ∈ E, ∀ k, t.content? (e.kept k) = none) (hw : ∀ a ∈ acts, a.Within E) :
    ∀ earlier e source runner later, acts = earlier ++ .call e source runner :: later →
      let files := (Past.history { files := t } earlier).files
      let call := callOn files e source runner
      let known := ∃ x, LastAnswer t earlier e x ∧ x.digest = sourceDigest e.id source
      ((∃ x, call.1 = .ok x ∧ x.status = .hit ∧ call.2.runs = []) ↔ known) ∧
      (∀ x, call.1 = .ok x → x.status = .hit →
        call.2.files = files ∧ ∀ y, LastAnswer t earlier e y → x.text = y.text) ∧
      (¬ known → call.2.runs = [e.source] ∨
        ∃ k cause, cause ≠ .notFound ∧ files.read (e.kept k) = .error cause ∧
          call = (.error (.io (e.kept k) cause), { files := files })) := by
  rintro earlier e source runner later rfl
  intro files call known
  obtain ⟨he, hr⟩ : (Act.call e source runner).Within E :=
    hw _ (List.mem_append_right _ List.mem_cons_self)
  obtain ⟨hapart, hmem⟩ := remembers_history ha hn
    fun a h => hw a (List.mem_append_left _ h)
  have hcall : Ensured runner e source { files } call.1 call.2 := callOn_ensured _ _ _ _
  have hiff := (hmem e he).hit_iff source
  -- whether the call is a hit is decided by what the kept files say
  have hhit : ∀ x, call.1 = .ok x → x.status = .hit →
      lookUp files e (sourceDigest e.id source) = .ok (.hit, x.text) := by
    intro x hx
    rw [hx] at hcall
    exact hcall.hit_text
  refine ⟨⟨fun ⟨x, hx, hs, _⟩ => hiff.1 ⟨_, hhit x hx hs⟩, fun hk => ?_⟩, fun x hx hs => ?_,
    fun hk => ?_⟩
  · obtain ⟨text, hl⟩ := hiff.2 hk
    obtain ⟨hx, hs'⟩ := hcall.of_hit hl
    exact ⟨_, hx, rfl, by rw [hs']; rfl⟩
  · have hl := hhit x hx hs
    exact ⟨by rw [(hcall.of_hit hl).2]; rfl, fun y hy => (hmem e he).text_eq hl hy⟩
  · rcases hcall.of_miss hapart he hr (fun hl => hk (hiff.1 hl)) with
      hruns | ⟨k, cause, hne, hread, hx, hs'⟩
    · exact .inl hruns
    · exact .inr ⟨k, cause, hne, hread, Prod.ext hx hs'⟩

/-- A runner that puts out the same at all times, and touches no file. -/
def speaks (output : List UInt8) : Runner := ⟨fun t _ => ⟨.ok output, t, []⟩⟩

theorem speaks_spares (output : List UInt8) (E : Set Entry) : (speaks output).Spares E :=
  Runner.spares_of_files (fun _ _ => rfl) E

/-- An example is run, and its output is no text. Then it is called for again, and the transcript is
the same; and once more for another source, which is run. -/
theorem run_exactly_when_needed_again :
    let t : Tree := { entries := [([.text ['a']], .directory)] }
    let a : Entry := ⟨"a", "A", ⟨['a']⟩, ⟨"a/a.js".toList⟩, none, none⟩
    let first := Act.call a [1] (speaks [104, 105, 255])
    let again := callOn (Past.history { files := t } [first]).files a [1] (speaks [])
    let other := callOn (Past.history { files := t } [first]).files a [2] (speaks [])
    (∃ x, again.1 = .ok x ∧ x.text = prompt "a" ++ ['h', 'i', '\uFFFD'] ∧ again.2.runs = [] ∧
      again.2.files = (Past.history { files := t } [first]).files) ∧
    other.2.runs = [a.source] := by
  intro t a first again other
  have hapart : Apart {a} t :=
    apart_singleton (fun k => by cases k <;> decide +kernel) (by decide +kernel)
  have hnone : ∀ e ∈ ({a} : Set Entry), ∀ k, t.content? (e.kept k) = none := by
    rintro e rfl k
    cases k <;> decide +kernel
  have hanswer : (callOn t a [1] (speaks [104, 105, 255])).1 =
      .ok ⟨prompt "a" ++ ['h', 'i', '\uFFFD'], sourceDigest "a" [1], .fresh⟩ := by
    decide +kernel
  have hlast : ∀ y, LastAnswer t [first] a y ↔
      y = ⟨prompt "a" ++ ['h', 'i', '\uFFFD'], sourceDigest "a" [1], .fresh⟩ := by
    intro y
    have hcall : LastAnswer t ([] ++ [first]) a y ↔ _ := lastAnswer_call
    refine hcall.trans ?_
    show (callOn t a [1] (speaks [104, 105, 255])).1 = .ok y ↔ _
    rw [hanswer, Except.ok.injEq, eq_comm]
  have hwithin : ∀ source, ∀ b ∈ [first, .call a source (speaks [])], b.Within {a} := by
    intro source b hb
    simp only [List.mem_cons, List.not_mem_nil, or_false] at hb
    rcases hb with rfl | rfl
    · exact ⟨rfl, speaks_spares _ _⟩
    · exact ⟨rfl, speaks_spares _ _⟩
  refine ⟨?_, ?_⟩
  · obtain ⟨hiff, hhit, -⟩ := run_exactly_when_needed {a} t _ hapart hnone (hwithin [1])
      [first] a [1] (speaks []) [] rfl
    obtain ⟨x, hx, hs, hruns⟩ := hiff.2 ⟨_, (hlast _).2 rfl, rfl⟩
    obtain ⟨hfiles, htext⟩ := hhit x hx hs
    exact ⟨x, hx, htext _ ((hlast _).2 rfl), hruns, hfiles⟩
  · obtain ⟨-, -, hmiss⟩ := run_exactly_when_needed {a} t _ hapart hnone (hwithin [2])
      [first] a [2] (speaks []) [] rfl
    have hne : sourceDigest "a" [1] ≠ sourceDigest "a" [2] := by decide +kernel
    refine (hmiss ?_).resolve_right ?_
    · rintro ⟨y, hy, hd⟩
      rw [(hlast y).1 hy] at hd
      exact hne hd
    · -- the kept files are those of the first call, and can be looked at
      rintro ⟨k, cause, hc, hread, -⟩
      obtain ⟨-, hmem⟩ := remembers_history hapart hnone fun b hb =>
        hwithin [2] b (List.mem_cons.2 (.inl (List.mem_singleton.1 hb)))
      obtain ⟨hh, hx⟩ := (hmem a rfl _ _).2 ⟨_, (hlast _).2 rfl, rfl, rfl⟩
      cases k with
      | digest => exact absurd ((read_eq_ok.2 hh).symm.trans hread) (by simp)
      | transcript => exact absurd ((read_eq_ok.2 hx).symm.trans hread) (by simp)

/-- A name that leaves no room for what the names of kept files end in. -/
def longName : List Char := List.replicate 252 'a'

/-- An example with such a name. -/
def longNamed : Entry := entryOf {} none (String.ofList longName) none

/-- The directory of that example. -/
def longNamedTree : Tree where
  entries := [([.text "examples".toList], .directory),
    ([.text longName, .text "examples".toList], .directory)]

theorem longNamed_kept (k : Kept) : longNamed.kept k =
    ⟨"examples/".toList ++ longName ++ '/' :: longName ++ match k with
      | .digest => ".hash".toList
      | .transcript => ".transcript".toList⟩ := by
  cases k
  · simp only [longNamed, entryOf, Entry.kept, Entry.hashPath, Entry.sidecar, Path.ofString,
      String.toList_append, String.toList_ofList]
    decide +kernel
  · simp only [longNamed, entryOf, Entry.kept, Entry.transcriptPath, Entry.sidecar, Path.ofString,
      String.toList_append, String.toList_ofList]
    decide +kernel

/-- **An example whose kept files cannot be looked at is not run**, even though nothing has been
kept. -/
theorem long_named_not_run :
    Apart {longNamed} longNamedTree ∧
      (∀ k, longNamedTree.content? (longNamed.kept k) = none) ∧
      (speaks [104, 105]).Spares {longNamed} ∧
      (¬ ∃ x, LastAnswer longNamedTree [] longNamed x ∧
        x.digest = sourceDigest longNamed.id [120]) ∧
      callOn longNamedTree longNamed [120] (speaks [104, 105]) =
        (.error (.io longNamed.hashPath .nameTooLong), { files := longNamedTree, runs := [] }) := by
  refine ⟨apart_singleton (fun k => ?_) ?_, fun k => ?_, speaks_spares _ _,
    fun ⟨x, hx, _⟩ => not_lastAnswer_nil hx, callOn_unread ?_ (by decide) _ _⟩
  · rw [longNamed_kept]
    cases k <;> decide +kernel
  · rw [longNamed_kept, longNamed_kept]
    decide +kernel
  · rw [longNamed_kept]
    cases k <;> decide +kernel
  · show longNamedTree.read (longNamed.kept .digest) = _
    rw [longNamed_kept]
    decide +kernel

end LiterateSite.Site
