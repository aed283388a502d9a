import LiterateSite.Proofs.Highlight.Tokens

/-!
# Reading markup back

Highlighted code is read here the way a browser reads it, without a look at how it was written.

* `decode`: characters for entities, in one pass from left to right.
* `Element`, `elements?`: runs of text and spans, which hold text only.
* `read?`: the tokens of a body.
* `visibleText`: what is left of markup without its tags.
* `read?_body`: **a body is read back as the tokens that it was made of**, if plain tokens are not
  empty and do not follow each other.
* `format_injective`: so no two such lists of tokens have the same markup.
* `visibleText_format`: the visible text of code is the code.
-/

namespace LiterateSite.Highlight.Markup

/-- The characters for the five entities; all else stays as it is. -/
def decode : List Char → List Char
  | '&' :: 'a' :: 'm' :: 'p' :: ';' :: rest => '&' :: decode rest
  | '&' :: 'l' :: 't' :: ';' :: rest => '<' :: decode rest
  | '&' :: 'g' :: 't' :: ';' :: rest => '>' :: decode rest
  | '&' :: 'q' :: 'u' :: 'o' :: 't' :: ';' :: rest => '"' :: decode rest
  | '&' :: '#' :: '3' :: '9' :: ';' :: rest => '\'' :: decode rest
  | c :: rest => c :: decode rest
  | [] => []

/-- The characters that text in markup cannot hold, except for an ampersand that begins an
entity. -/
def special : List Char := ['&', '<', '>', '"', '\'']

/-- The entities. -/
def entities : List (List Char) :=
  ["&amp;".toList, "&lt;".toList, "&gt;".toList, "&quot;".toList, "&#39;".toList]

/-- Text in markup: characters that are not special, and entities. -/
inductive Escaped : List Char → Prop
  | nil : Escaped []
  | plain {c : Char} {rest : List Char} (hc : c ∉ special) (h : Escaped rest) : Escaped (c :: rest)
  | entity {name rest : List Char} (hn : name ∈ entities) (h : Escaped rest) :
    Escaped (name ++ rest)

/-- A piece of a body: a run of bare text, or a span of a class. Both hold text in markup only. -/
inductive Element where
  | run (raw : List Char)
  | span (cls raw : List Char)
  deriving DecidableEq, Repr

namespace Element

/-- The text in markup that an element holds. -/
def raw : Element → List Char
  | .run raw => raw
  | .span _ raw => raw

/-- An element as it is written. -/
def markup : Element → List Char
  | .run raw => raw
  | .span cls raw => "<span class=\"".toList ++ cls ++ "\">".toList ++ raw ++ "</span>".toList

/-- The kind of a class. -/
def kindOf? (cls : List Char) : Option TokenKind :=
  [.keyword, .keywordConstant, .name, .string, .number, .comment, .operator, .punctuation, .prompt,
    .output].find? fun k : TokenKind => k.class?.map String.toList == some cls

/-- The token that an element stands for. -/
def token? : Element → Option Token
  | .run raw => some ⟨.text, decode raw⟩
  | .span cls raw => (kindOf? cls).map fun kind => ⟨kind, decode raw⟩

end Element

/-- The class and the content of the span that a text begins with, and the text after it. -/
def spanAt? (cs : List Char) : Option (List Char × List Char × List Char) := do
  let cs ← "<span class=\"".toList.isPrefixOf? cs
  let inner ← "\">".toList.isPrefixOf? (cs.dropWhile (· != '"'))
  let later ← "</span>".toList.isPrefixOf? (inner.dropWhile (· != '<'))
  return (cs.takeWhile (· != '"'), inner.takeWhile (· != '<'), later)

theorem isPrefixOf?_eq {p cs rest : List Char} (h : p.isPrefixOf? cs = some rest) :
    cs = p ++ rest := by
  induction p generalizing cs with
  | nil => exact Option.some.inj h
  | cons c p ih =>
    cases cs with
    | nil => simp [List.isPrefixOf?] at h
    | cons d ds =>
      rw [List.isPrefixOf?] at h
      by_cases hc : (c == d) = true
      · rw [if_pos hc] at h
        rw [beq_iff_eq.1 hc, ih h, List.cons_append]
      · rw [if_neg hc] at h
        exact absurd h.symm (Option.some_ne_none _)

theorem isPrefixOf?_append (p rest : List Char) : p.isPrefixOf? (p ++ rest) = some rest := by
  induction p with
  | nil => rfl
  | cons c p ih =>
    rw [List.cons_append, List.isPrefixOf?, if_pos (beq_self_eq_true c), ih]

theorem length_dropWhile_le (p : Char → Bool) (cs : List Char) :
    (cs.dropWhile p).length ≤ cs.length := (List.dropWhile_sublist p).length_le

theorem spanAt?_length {cs cls raw later : List Char} (h : spanAt? cs = some (cls, raw, later)) :
    later.length < cs.length := by
  unfold spanAt? at h
  simp only [Option.bind_eq_bind, Option.bind_eq_some_iff, Option.pure_def, Option.some.injEq,
    Prod.mk.injEq] at h
  -- nothing that is read is ever longer than what it is read from
  obtain ⟨c₁, h₁, c₂, h₂, c₃, h₃, -, -, rfl⟩ := h
  have e₁ := congrArg List.length (isPrefixOf?_eq h₁)
  have e₂ := congrArg List.length (isPrefixOf?_eq h₂)
  have e₃ := congrArg List.length (isPrefixOf?_eq h₃)
  have l₂ := length_dropWhile_le (· != '"') c₁
  have l₃ := length_dropWhile_le (· != '<') c₂
  rw [List.length_append] at e₁ e₂ e₃
  have hp : 0 < "<span class=\"".toList.length := by decide
  omega

/-- The elements of a body: up to the next tag a run, and at a tag a span. -/
def elements? (cs : List Char) : Option (List Element) :=
  match cs with
  | [] => some []
  | c :: rest =>
    if c = '<' then
      match _h : spanAt? (c :: rest) with
      | none => none
      | some (cls, raw, later) => (elements? later).map (.span cls raw :: ·)
    else
      (elements? (rest.dropWhile (· != '<'))).map (.run (c :: rest.takeWhile (· != '<')) :: ·)
termination_by cs.length
decreasing_by
  · exact spanAt?_length _h
  · have := length_dropWhile_le (· != '<') rest
    simp only [List.length_cons]
    omega

/-- The tokens of a body. -/
def read? (body : List Char) : Option (List Token) := do
  let elements ← elements? body
  elements.mapM Element.token?

/-- Markup without its tags; `inside` tells that it begins within a tag. -/
def withoutTags (inside : Bool) : List Char → List Char
  | [] => []
  | c :: rest =>
    if inside then withoutTags (c != '>') rest
    else if c = '<' then withoutTags true rest
    else c :: withoutTags false rest

/-- What one sees of markup: all but its tags, with characters for entities. -/
def visibleText (markup : List Char) : List Char := decode (withoutTags false markup)

/-- No plain token is empty or follows another one. -/
structure Legible (tokens : List Token) : Prop where
  inhabited : ∀ t ∈ tokens, t.kind = .text → t.text ≠ []
  apart : tokens.IsChain fun t u => ¬ (t.kind = .text ∧ u.kind = .text)

variable {tokens : List Token} {t : Token} {c : Char} {rest : List Char}

/-! ## Entities -/

theorem decode_cons (hc : c ≠ '&') (rest : List Char) :
    decode (c :: rest) = c :: decode rest := by
  rw [decode.eq_def]
  split <;> simp_all

/-- A character that is no special one is written as it is. -/
theorem escapeChar_plain (hc : c ∉ special) : escapeChar c = [c] := by
  unfold special at hc
  simp only [List.mem_cons, List.not_mem_nil, or_false, not_or] at hc
  obtain ⟨h1, h2, h3, h4, h5⟩ := hc
  unfold escapeChar
  split <;> first | contradiction | rfl

theorem decode_escapeChar (c : Char) (rest : List Char) :
    decode (escapeChar c ++ rest) = c :: decode rest := by
  by_cases hc : c ∈ special
  · unfold special at hc
    simp only [List.mem_cons, List.not_mem_nil, or_false] at hc
    rcases hc with rfl | rfl | rfl | rfl | rfl <;> rfl
  · rw [escapeChar_plain hc, List.singleton_append, decode_cons]
    rintro rfl
    exact hc List.mem_cons_self

/-- **Entities are read as the characters that they stand for.** -/
theorem decode_escape (text : List Char) : decode (escape text) = text := by
  unfold escape
  induction text with
  | nil => rfl
  | cons c cs ih => rw [List.flatMap_cons, decode_escapeChar, ih]

theorem escaped_escape (text : List Char) : Escaped (escape text) := by
  unfold escape
  induction text with
  | nil => exact .nil
  | cons c cs ih =>
    rw [List.flatMap_cons]
    by_cases hc : c ∈ special
    · refine .entity ?_ ih
      unfold special at hc
      simp only [List.mem_cons, List.not_mem_nil, or_false] at hc
      rcases hc with rfl | rfl | rfl | rfl | rfl <;> decide
    · rw [escapeChar_plain hc]
      exact .plain hc ih

/-- **Text in markup holds no tag.** -/
theorem Escaped.no_tag {raw : List Char} (h : Escaped raw) : '<' ∉ raw := by
  induction h with
  | nil => exact List.not_mem_nil
  | plain hc _ ih =>
    rw [List.mem_cons, not_or]
    exact ⟨fun hc' => hc (hc' ▸ by decide), ih⟩
  | entity hn _ ih =>
    rw [List.mem_append, not_or]
    refine ⟨?_, ih⟩
    unfold entities at hn
    simp only [List.mem_cons, List.not_mem_nil, or_false] at hn
    rcases hn with rfl | rfl | rfl | rfl | rfl <;> decide

theorem escape_ne_nil {text : List Char} (h : text ≠ []) : escape text ≠ [] := by
  intro he
  have hd := decode_escape text
  rw [he] at hd
  exact h hd.symm

/-! ## Elements -/

theorem takeWhile_until {d : Char} {cs : List Char} (h : d ∉ cs) (rest : List Char) :
    (cs ++ d :: rest).takeWhile (· != d) = cs := by
  have hall : ∀ c ∈ cs, (c != d) = true := fun c hc => bne_iff_ne.2 fun he => h (he ▸ hc)
  rw [List.takeWhile_append_of_pos hall, List.takeWhile_cons_of_neg (by simp), List.append_nil]

theorem dropWhile_until {d : Char} {cs : List Char} (h : d ∉ cs) (rest : List Char) :
    (cs ++ d :: rest).dropWhile (· != d) = d :: rest := by
  have hall : ∀ c ∈ cs, (c != d) = true := fun c hc => bne_iff_ne.2 fun he => h (he ▸ hc)
  rw [List.dropWhile_append_of_pos hall, List.dropWhile_cons_of_neg (by simp)]

theorem spanAt?_span {cls raw : List Char} (hc : '"' ∉ cls) (hr : '<' ∉ raw) (rest : List Char) :
    spanAt? ((Element.span cls raw).markup ++ rest) = some (cls, raw, rest) := by
  have hq : "\">".toList ++ (raw ++ ("</span>".toList ++ rest)) =
      '"' :: ('>' :: (raw ++ ("</span>".toList ++ rest))) := rfl
  have ht : "</span>".toList ++ rest = '<' :: ("/span>".toList ++ rest) := rfl
  unfold spanAt? Element.markup
  simp only [List.append_assoc]
  -- tag, class, quote, content and closing tag are read one after the other
  rw [isPrefixOf?_append, Option.bind_eq_bind, Option.bind_some, hq, dropWhile_until hc,
    takeWhile_until hc, ← hq, isPrefixOf?_append, Option.bind_some, ht,
    dropWhile_until hr, takeWhile_until hr, ← ht, isPrefixOf?_append]
  rfl

theorem elements?_span {cls raw : List Char} (hc : '"' ∉ cls) (hr : '<' ∉ raw)
    (rest : List Char) : elements? ((Element.span cls raw).markup ++ rest) =
      (elements? rest).map (.span cls raw :: ·) := by
  have hs := spanAt?_span hc hr rest
  have hm : (Element.span cls raw).markup ++ rest =
      '<' :: ((Element.span cls raw).markup ++ rest).tail := rfl
  rw [hm] at hs ⊢
  rw [elements?, if_pos rfl]
  split
  · next hn => rw [hs] at hn; exact absurd hn (Option.some_ne_none _)
  · next h' => rw [hs] at h'; cases h'; rfl

/-- A run ends where the text ends or a tag begins. -/
theorem elements?_run {raw : List Char} (hn : raw ≠ []) (hr : '<' ∉ raw) {rest : List Char}
    (hrest : rest = [] ∨ ∃ later, rest = '<' :: later) :
    elements? (raw ++ rest) = (elements? rest).map (.run raw :: ·) := by
  cases raw with
  | nil => exact absurd rfl hn
  | cons c cs =>
    rw [List.mem_cons, not_or] at hr
    rw [List.cons_append, elements?, if_neg fun h => hr.1 h.symm]
    rcases hrest with rfl | ⟨later, rfl⟩
    · -- there is no tag left to stop at
      have hall : ∀ d ∈ cs, (d != '<') = true :=
        fun d hd => bne_iff_ne.2 fun he => hr.2 (he ▸ hd)
      have hd : (cs ++ []).dropWhile (· != '<') = [] := by
        rw [List.dropWhile_append_of_pos hall, List.dropWhile_nil]
      have ht : (cs ++ []).takeWhile (· != '<') = cs := by
        rw [List.takeWhile_append_of_pos hall, List.takeWhile_nil, List.append_nil]
      rw [hd, ht]
    · rw [dropWhile_until hr.2, takeWhile_until hr.2]

/-- The element of a token. -/
def elementOf (t : Token) : Element :=
  match t.kind.class? with
  | some cls => .span cls.toList (escape t.text)
  | none => .run (escape t.text)

theorem elementOf_text (h : t.kind = .text) : elementOf t = .run (escape t.text) := by
  unfold elementOf
  rw [h]
  rfl

/-- A kind that is not plain has a class without quotes and brackets, by which it is found
again. -/
theorem class?_of_ne_text {k : TokenKind} (h : k ≠ .text) :
    ∃ cls, k.class? = some cls ∧ '"' ∉ cls.toList ∧ '>' ∉ cls.toList ∧
      Element.kindOf? cls.toList = some k := by
  cases k with
  | text => exact absurd rfl h
  | _ => exact ⟨_, rfl, by decide, by decide, by decide⟩

theorem elementOf_styled (h : t.kind ≠ .text) :
    ∃ cls : List Char, elementOf t = .span cls (escape t.text) ∧ '"' ∉ cls ∧ '>' ∉ cls ∧
      Element.kindOf? cls = some t.kind := by
  obtain ⟨cls, hc, hq, hb, hk⟩ := class?_of_ne_text h
  refine ⟨cls.toList, ?_, hq, hb, hk⟩
  unfold elementOf
  rw [hc]

theorem raw_elementOf (t : Token) : (elementOf t).raw = escape t.text := by
  unfold elementOf
  cases t.kind.class? <;> rfl

theorem markup_elementOf (t : Token) : (elementOf t).markup = formatToken t := by
  unfold elementOf formatToken
  cases t.kind.class? with
  | none => rfl
  | some cls =>
    show "<span class=\"".toList ++ cls.toList ++ "\">".toList ++ escape t.text ++ "</span>".toList =
      openTag cls ++ escape t.text ++ closeTag
    unfold openTag closeTag
    rw [String.toList_append, String.toList_append]

/-- **A body is written as the elements of its tokens.** -/
theorem body_eq (tokens : List Token) :
    body tokens = (tokens.map elementOf).flatMap Element.markup := by
  unfold body
  rw [List.flatMap_map]
  exact (List.flatMap_congr fun t _ => (markup_elementOf t)).symm

/-- **An element stands for the token that it was made of.** -/
theorem token?_elementOf (t : Token) : (elementOf t).token? = some t := by
  by_cases hk : t.kind = .text
  · rw [elementOf_text hk]
    show some (Token.mk .text (decode (escape t.text))) = some t
    rw [decode_escape, ← hk]
  · obtain ⟨cls, he, -, -, hf⟩ := elementOf_styled hk
    rw [he]
    show (Element.kindOf? cls).map (fun kind => Token.mk kind (decode (escape t.text))) = some t
    rw [hf, Option.map_some, decode_escape]

theorem mapM_token? (tokens : List Token) :
    (tokens.map elementOf).mapM Element.token? = some tokens := by
  induction tokens with
  | nil => rfl
  | cons t rest ih =>
    rw [List.map_cons, List.mapM_cons, token?_elementOf, Option.bind_eq_bind, Option.bind_some, ih]
    rfl

/-! ## Bodies -/

theorem Legible.tail (h : Legible (t :: tokens)) : Legible tokens :=
  ⟨fun u hu => h.inhabited u (List.mem_cons_of_mem _ hu), h.apart.tail⟩

/-- After a plain token there is nothing, or a tag. -/
theorem Legible.body_after_text (h : Legible (t :: tokens)) (ht : t.kind = .text) :
    body tokens = [] ∨ ∃ later, body tokens = '<' :: later := by
  cases tokens with
  | nil => exact .inl rfl
  | cons u rest =>
    have hu : u.kind ≠ .text := fun hu => (List.isChain_cons_cons.1 h.apart).1 ⟨ht, hu⟩
    obtain ⟨cls, he, -⟩ := elementOf_styled hu
    refine .inr ⟨(body (u :: rest)).tail, ?_⟩
    rw [body_eq, List.map_cons, List.flatMap_cons, he]
    rfl

/-- **The elements of a body** are those of its tokens. -/
theorem elements?_body (h : Legible tokens) :
    elements? (body tokens) = some (tokens.map elementOf) := by
  induction tokens with
  | nil =>
    rw [show body [] = [] from rfl, elements?]
    rfl
  | cons t rest ih =>
    have hb : body (t :: rest) = (elementOf t).markup ++ body rest := by
      rw [markup_elementOf]; rfl
    have hno := (escaped_escape t.text).no_tag
    rw [hb]
    -- bare text ends at the tag of the next token, which cannot be bare text itself
    by_cases hk : t.kind = .text
    · have hne := escape_ne_nil (h.inhabited t List.mem_cons_self hk)
      rw [List.map_cons, elementOf_text hk]
      exact (elements?_run hne hno (h.body_after_text hk)).trans (by rw [ih h.tail]; rfl)
    · obtain ⟨cls, he, hq, -⟩ := elementOf_styled hk
      rw [List.map_cons, he, elements?_span hq hno, ih h.tail]
      rfl

/-- **A body is read back as its tokens.** -/
theorem read?_body (h : Legible tokens) : read? (body tokens) = some tokens := by
  unfold read?
  rw [elements?_body h, Option.bind_eq_bind, Option.bind_some, mapM_token?]

/-- **Lists of tokens with the same markup are the same**, if they are legible. -/
theorem format_injective {theme : String} {a b : List Token} (ha : Legible a) (hb : Legible b)
    (h : format theme a = format theme b) : a = b := by
  have hbody : body a = body b := by
    unfold format at h
    rw [List.append_cancel_right_eq, List.append_cancel_left_eq] at h
    exact h
  have hr := read?_body ha
  rw [hbody, read?_body hb] at hr
  exact (Option.some.inj hr).symm

/-- **The tokens of a text are legible.** -/
theorem legible_of_splits {text : List Char} (h : Splits text tokens) : Legible tokens := by
  refine ⟨fun t ht _ => h.inhabited t ht, h.alternating.imp fun t u hne hk => hne ?_⟩
  rw [hk.1, hk.2]

/-! ## Visible text -/

theorem withoutTags_open (rest : List Char) :
    withoutTags false ('<' :: rest) = withoutTags true rest := rfl

theorem withoutTags_raw {raw : List Char} (h : '<' ∉ raw) (rest : List Char) :
    withoutTags false (raw ++ rest) = raw ++ withoutTags false rest := by
  induction raw with
  | nil => rfl
  | cons c cs ih =>
    rw [List.mem_cons, not_or] at h
    rw [List.cons_append, List.cons_append, ← ih h.2]
    show (if c = '<' then _ else _) = _
    rw [if_neg fun hc => h.1 hc.symm]

theorem withoutTags_tag {inner : List Char} (h : '>' ∉ inner) (rest : List Char) :
    withoutTags true (inner ++ '>' :: rest) = withoutTags false rest := by
  induction inner with
  | nil => rfl
  | cons c cs ih =>
    rw [List.mem_cons, not_or] at h
    have hc : (c != '>') = true := bne_iff_ne.2 fun hc => h.1 hc.symm
    show withoutTags (c != '>') (cs ++ '>' :: rest) = _
    rw [hc, ih h.2]

theorem withoutTags_span {cls raw : List Char} (hc : '>' ∉ cls) (hr : '<' ∉ raw)
    (rest : List Char) : withoutTags false ((Element.span cls raw).markup ++ rest) =
      raw ++ withoutTags false rest := by
  have hopen : '>' ∉ "span class=\"".toList ++ cls ++ ['"'] := by
    simp only [List.mem_append, not_or]
    exact ⟨⟨by decide, hc⟩, by decide⟩
  -- two tags with the text between them
  have hm : (Element.span cls raw).markup ++ rest =
      '<' :: (("span class=\"".toList ++ cls ++ ['"']) ++
        '>' :: (raw ++ '<' :: ("/span".toList ++ '>' :: rest))) := by
    unfold Element.markup
    simp
  have hclose : '>' ∉ "/span".toList := by decide
  rw [hm, withoutTags_open, withoutTags_tag hopen, withoutTags_raw hr, withoutTags_open,
    withoutTags_tag hclose]

theorem withoutTags_formatToken (t : Token) (rest : List Char) :
    withoutTags false (formatToken t ++ rest) = escape t.text ++ withoutTags false rest := by
  have hno := (escaped_escape t.text).no_tag
  rw [← markup_elementOf]
  by_cases hk : t.kind = .text
  · rw [elementOf_text hk]
    exact withoutTags_raw hno rest
  · obtain ⟨cls, he, -, hb, -⟩ := elementOf_styled hk
    rw [he, withoutTags_span hb hno]

theorem withoutTags_body (tokens : List Token) (rest : List Char) :
    withoutTags false (body tokens ++ rest) = escape (textOf tokens) ++ withoutTags false rest := by
  induction tokens with
  | nil => rfl
  | cons t later ih =>
    have hb : body (t :: later) = formatToken t ++ body later := rfl
    have he : escape (textOf (t :: later)) = escape t.text ++ escape (textOf later) := by
      unfold escape
      rw [textOf_cons, List.flatMap_append]
    rw [hb, he, List.append_assoc, withoutTags_formatToken, ih, List.append_assoc]

theorem visibleText_body (tokens : List Token) : visibleText (body tokens) = textOf tokens := by
  have h := withoutTags_body tokens []
  rw [List.append_nil, show withoutTags false [] = [] from rfl, List.append_nil] at h
  unfold visibleText
  rw [h, decode_escape]

/-- **The visible text of code is the code**, if the name of the theme ends no tag. -/
theorem visibleText_format {theme : String} (h : '>' ∉ theme.toList) (tokens : List Token) :
    visibleText (format theme tokens) = textOf tokens := by
  have hopen : '>' ∉ "pre class=\"chroma ".toList ++ theme.toList ++ ['"'] := by
    simp only [List.mem_append, not_or]
    exact ⟨⟨by decide, h⟩, by decide⟩
  have hf : format theme tokens =
      '<' :: (("pre class=\"chroma ".toList ++ theme.toList ++ ['"']) ++
        '>' :: '<' :: ("code".toList ++ '>' :: (body tokens ++ closing))) := by
    unfold format opening
    simp
  have hclosing : withoutTags false closing = [] := by decide
  have hcode : '>' ∉ "code".toList := by decide
  unfold visibleText
  rw [hf, withoutTags_open, withoutTags_tag hopen, withoutTags_open, withoutTags_tag hcode,
    withoutTags_body, hclosing, List.append_nil, decode_escape]

end LiterateSite.Highlight.Markup
