import LiterateSite.Markdown.Source

/-!
# Raw HTML

HTML that may stand in a Markdown text: tags, comments, instructions, declarations and character
data, in a line of text or as a block of its own. Each recogniser starts at the place after `<`.

* `Reach`: how far raw HTML goes, and the marks of containers within it, which are no part of it.
* `tag?`: an opening or closing tag.
* `inline?`: any raw HTML within a text.
* `Block`, `block?`: the start of a block of HTML, and what ends the block.
-/

namespace LiterateSite.Markdown.RawHtml

/-- How far raw HTML goes, and the spans within it that are left out, last first. -/
structure Reach where
  place : Nat
  cuts : List (Nat × Nat) := []
  deriving DecidableEq, Repr, Inhabited

/-- What raw HTML from a place on reads. -/
def Reach.content (r : Reach) (s : Source) (start : Nat) : List Char :=
  let (last, done) := r.cuts.foldl (fun (stop, out) (cut : Nat × Nat) =>
    (cut.1, s.slice cut.2 stop ++ out)) (r.place, [])
  s.slice start last ++ done

/-- Past a line end: `turn` answers where a line goes on; without it no line may end. -/
def Reach.nextLine? (r : Reach) (turn : Option (Nat → Nat)) (after : Nat) : Option Reach :=
  turn.map fun turn =>
    let next := turn after
    { place := next, cuts := if next > after then (after, next) :: r.cuts else r.cuts }

/-- The place after the next `expected`. -/
def through? (s : Source) (expected : String) (place : Nat) : Option Nat :=
  (s.find? (s.startsWith · expected.toList) place).map (· + expected.length)

/-- Past blanks. -/
def blanks? (s : Source) (turn : Option (Nat → Nat)) : Nat → Reach → Option Reach
  | 0, _ => none
  | fuel + 1, r =>
    if !(s.get? r.place).any isSpace then some r
    else
      match s.lineEnd? r.place with
      | some after => (r.nextLine? turn after).bind (blanks? s turn fuel)
      | none => blanks? s turn fuel { r with place := r.place + 1 }

/-- Past the quote that closes a value. -/
def quoted? (s : Source) (turn : Option (Nat → Nat)) (quote : Char) : Nat → Reach → Option Reach
  | 0, _ => none
  | fuel + 1, r =>
    if s.has r.place quote then some { r with place := r.place + 1 }
    else if r.place ≥ s.stop then none
    else
      match s.lineEnd? r.place with
      | some after => (r.nextLine? turn after).bind (quoted? s turn quote fuel)
      | none => quoted? s turn quote fuel { r with place := r.place + 1 }

def isNameStart (c : Char) : Bool := c.isAlpha || c == '_' || c == ':'

def isNamePart (c : Char) : Bool := c.isAlphanum || c == '_' || c == '.' || c == ':' || c == '-'

/-- A character that may stand in a value without quotes. -/
def isBareValue (c : Char) : Bool := !"'\" =><\x60\n\r".toList.contains c

/-- Past the value of an attribute. -/
def value? (s : Source) (turn : Option (Nat → Nat)) (fuel : Nat) (r : Reach) : Option Reach :=
  match s.get? r.place with
  | none => none
  | some c =>
    if c == '"' || c == '\'' then quoted? s turn c fuel { r with place := r.place + 1 }
    else if isBareValue c then some { r with place := s.skipWhile isBareValue r.place }
    else none

/-- Past an attribute: a name, and a value if an equals sign follows. -/
def attribute? (s : Source) (turn : Option (Nat → Nat)) (fuel : Nat) (r : Reach) : Option Reach :=
  if !(s.get? r.place).any isNameStart then none
  else
    let named := { r with place := s.skipWhile isNamePart r.place }
    match blanks? s turn fuel named with
    | none => none
    | some spaced =>
      if s.has spaced.place '=' then
        (blanks? s turn fuel { spaced with place := spaced.place + 1 }).bind (value? s turn fuel)
      else some named

/-- Past the attributes of an opening tag and its end. -/
def attributes? (s : Source) (turn : Option (Nat → Nat)) : Nat → Reach → Option Reach
  | 0, _ => none
  | fuel + 1, r =>
    match blanks? s turn (fuel + 1) r with
    | none => none
    | some spaced =>
      let place := spaced.place
      if s.has place '>' then some { spaced with place := place + 1 }
      else if s.has place '/' then
        if s.has (place + 1) '>' then some { spaced with place := place + 2 } else none
      else if place == r.place then none
      else (attribute? s turn (fuel + 1) spaced).bind (attributes? s turn fuel)

/-- Past an opening or closing tag. -/
def tag? (s : Source) (turn : Option (Nat → Nat)) (place : Nat) : Option Reach :=
  let closing := s.has place '/'
  let start := if closing then place + 1 else place
  if !(s.get? start).any Char.isAlpha then none
  else
    let named := s.skipWhile (fun c => c.isAlphanum || c == '-') start
    if closing then
      let stop := s.skipBlanks named
      if s.has stop '>' then some { place := stop + 1 } else none
    else attributes? s turn (s.stop + 1) { place := named }

/-- The end of a comment, character data or a declaration, from the place after `!` on. Character
data ends at its first closing brackets, which `>` has to follow. -/
def bang? (s : Source) (place : Nat) : Option Nat :=
  match s.get? place with
  | some '-' =>
    let stop := s.skipWhile (· == '-') place
    if stop < place + 2 then none
    else if s.has stop '>' then some (stop + 1)
    else through? s "-->" stop
  | some '[' =>
    if !s.startsWith place "[CDATA[".toList then none
    else
      match s.find? (s.has · ']') (place + 7) with
      | none => none
      | some found =>
        let stop := s.skipWhile (· == ']') found
        if s.has stop '>' then some (stop + 1) else none
  | some c => if c.isAlpha then through? s ">" (place + 1) else none
  | none => none

/-- Past raw HTML within a text, where `turn` answers how a line goes on. -/
def inline? (s : Source) (turn : Nat → Nat) (place : Nat) : Option Reach :=
  match s.get? place with
  | some '!' => (bang? s (place + 1)).map fun stop => { place := stop }
  | some '?' => (through? s "?>" (place + 1)).map fun stop => { place := stop }
  | _ => tag? s (some turn) place

/-- How a block of HTML ends. -/
inductive Block where
  /-- With the line that holds this text. -/
  | until (closing : String)
  /-- Before a blank line. -/
  | paragraph
  deriving DecidableEq, Repr, Inhabited

/-- The elements whose tags begin a block anywhere. -/
def blockElements : List String :=
  ["address", "article", "aside", "base", "basefont", "blockquote", "body", "caption", "center",
    "col", "colgroup", "dd", "details", "dialog", "dir", "div", "dl", "dt", "fieldset",
    "figcaption", "figure", "footer", "form", "frame", "frameset", "h1", "h2", "h3", "h4", "h5",
    "h6", "head", "header", "hr", "html", "iframe", "legend", "li", "link", "main", "menu",
    "menuitem", "nav", "noframes", "ol", "optgroup", "option", "p", "param", "search", "section",
    "summary", "table", "tbody", "td", "tfoot", "th", "thead", "title", "tr", "track", "ul"]

/-- The elements whose content is text up to their closing tag. -/
def rawElements : List String := ["pre", "style", "script", "textarea"]

def lowerName (name : List Char) : String := String.ofList (name.map Char.toLower)

/-- A block that ends with a closing text. -/
def closedBlock? (s : Source) (place : Nat) : Option Block :=
  let raw := rawElements.find? fun name =>
    let stop := place + name.length
    stop ≤ s.stop && lowerName (s.slice place stop) == name
      && (match s.get? stop with
        | none => true
        | some c => isSpace c || c == '>')
  match raw with
  | some name => some (.until ("</" ++ name ++ ">"))
  | none =>
    if s.startsWith place "!--".toList then some (.until "-->")
    else if s.has place '?' then some (.until "?>")
    else if s.startsWith place "![CDATA[".toList then some (.until "]]>")
    else if s.has place '!' && (s.get? (place + 1)).any Char.isAlpha then some (.until ">")
    else none

/-- A tag of a block element begins. -/
def startsElement (s : Source) (place : Nat) : Bool :=
  let start := if s.has place '/' then place + 1 else place
  let stop := s.skipWhile Char.isAlphanum start
  blockElements.contains (lowerName (s.slice start stop))
    && (match s.get? stop with
      | none => true
      | some '/' => s.has (stop + 1) '>'
      | some c => c == ' ' || c == '\t' || c == '\n' || c == '\r' || c == '>')

/-- A block that may interrupt a paragraph. -/
def strongBlock? (s : Source) (place : Nat) : Option Block :=
  match closedBlock? s place with
  | some block => some block
  | none => if startsElement s place then some .paragraph else none

/-- A block that begins a line: the line may also be one tag of any element. -/
def block? (s : Source) (place : Nat) : Option Block :=
  match strongBlock? s place with
  | some block => some block
  | none =>
    match tag? s none place with
    | some reach => if s.isBlankRest reach.place then some .paragraph else none
    | none => none

end LiterateSite.Markdown.RawHtml
