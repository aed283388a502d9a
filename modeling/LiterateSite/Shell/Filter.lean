import LiterateSite.Shell.Tool
import LiterateSite.Text.Line

/-!
# Filters

Tools that read files, or the input, and write what they make of them.

* `cat`, `head`, `tail`, `sort`, `uniq`, `tac`, `rev`, `nl`: lines.
* `wc`: counts.
* `tr`, `cut`: characters.
* `tee`, `yes`, `seq`: the rest.
-/

namespace LiterateSite.Shell.Tool

open Files Text

/-- The lines of some bytes, each with its end. -/
def byteLines : List UInt8 → List (List UInt8)
  | [] => []
  | b :: rest =>
    if b == 10 then [b] :: byteLines rest
    else
      match byteLines rest with
      | [] => [[b]]
      | line :: later => (b :: line) :: later

/-- A line without its end. -/
def withoutEnd (line : List UInt8) : List UInt8 :=
  if line.getLast? == some 10 then line.dropLast else line

/-- A line with its end. -/
def withEnd (line : List UInt8) : List UInt8 := withoutEnd line ++ [10]

/-- A number in a column of some width. -/
def inColumn (width n : Nat) : List Char :=
  let digits := (toString n).toList
  List.replicate (width - digits.length) ' ' ++ digits

/-- A letter is among the options. -/
def hasFlag (opts : List (List Char)) (c : Char) : Bool :=
  opts.any fun o => o[1]? != some '-' && o.contains c

/-- Write files one after another. -/
def cat : Tool := fun args st =>
  let (opts, names) := options args
  overFiles "cat" names st fun _ bytes =>
    if hasFlag opts 'n' then
      ((byteLines bytes).zipIdx 1).flatMap fun (line, n) =>
        Utf8.encode (inColumn 6 n ++ ['\t']) ++ line
    else bytes

/-- The number of words. -/
def wordCount (bytes : List UInt8) : Nat :=
  ((Utf8.decodeLossy bytes).splitBy fun a b => isBlank a == isBlank b).countP
    fun part => !part.all isBlank

/-- Count lines, words, characters or bytes. Several numbers stand in columns, as wide as the
number of bytes in the files is long; the input is no file. -/
def wc : Tool := fun args st =>
  let (opts, names) := options args
  let all := contents "wc" names st
  let total := all.foldl (fun n (_, c) => n + (c.toOption.getD []).length) 0
  let width := if names.isEmpty then 7 else (toString total).length
  let countsOf := fun (bytes : List UInt8) =>
    [('l', bytes.countP (· == 10)), ('w', wordCount bytes),
      ('m', (Utf8.decodeLossy bytes).length), ('c', bytes.length)].filterMap fun (o, n) =>
        if if opts.isEmpty then o != 'm' else hasFlag opts o then some n else none
  let display := fun (ns : List Nat) (name : List Char) =>
    let numbers :=
      match ns with
      | [n] => if names.length > 1 then inColumn width n else (toString n).toList
      | ns => ((ns.map (inColumn width)).intersperse [' ']).flatten
    Utf8.encode (numbers ++ (if names.isEmpty then [] else ' ' :: name) ++ ['\n'])
  let r := overFiles "wc" names st fun name bytes => display (countsOf bytes) name
  if names.length > 1 then
    let sums := (all.filterMap fun (_, c) => c.toOption.map countsOf).foldl
      (fun sums ns => if sums.isEmpty then ns else sums.zipWith (· + ·) ns) []
    { r with chunks := r.chunks ++ [⟨false, display sums "total".toList⟩] }
  else r

/-- What `head` and `tail` count. -/
inductive Portion where
  | lines
  | bytes
  deriving DecidableEq, Repr, Inhabited

/-- The portions of some bytes. -/
def Portion.split (p : Portion) (bytes : List UInt8) : List (List UInt8) :=
  match p with
  | .lines => byteLines bytes
  | .bytes => bytes.map ([·])

/-- What is counted, how much is asked for, and the names of files. -/
def portion : List (List Char) → Portion × List Char × List (List Char)
  | ['-', 'n'] :: n :: names => (.lines, n, names)
  | ['-', 'c'] :: n :: names => (.bytes, n, names)
  | ('-' :: 'n' :: n) :: names => (.lines, n, names)
  | ('-' :: 'c' :: n) :: names => (.bytes, n, names)
  | ('-' :: d :: n) :: names =>
    if d.isDigit then (.lines, d :: n, names) else (.lines, ['1', '0'], ('-' :: d :: n) :: names)
  | names => (.lines, ['1', '0'], names)

/-- A number that may end in a letter for a unit. -/
def sized (text : List Char) : Nat :=
  let n := decimalNumber (text.takeWhile Char.isDigit)
  match text.dropWhile Char.isDigit with
  | 'k' :: _ | 'K' :: _ => n * 1024
  | 'M' :: _ => n * 1024 * 1024
  | 'b' :: _ => n * 512
  | _ => n

/-- Write a part of each file; with several files, each after its name. -/
def partsOfFiles (tool : String) (names : List (List Char)) (st : State)
    (f : List UInt8 → List UInt8) : Result :=
  let first := names.head?
  overFiles tool names st fun name bytes =>
    if names.length ≤ 1 then f bytes
    else
      let title := "==> ".toList ++ name ++ " <==\n".toList
      Utf8.encode (if first == some name then title else '\n' :: title) ++ f bytes

/-- Write the first lines or bytes, or all but the last. -/
def head : Tool := fun args st =>
  let (p, n, names) := portion args
  partsOfFiles "head" names st fun bytes =>
    let all := p.split bytes
    (match n with
      | '-' :: n => all.take (all.length - sized n)
      | n => all.take (sized n)).flatten

/-- Write the last lines or bytes, or those from one on. -/
def tail : Tool := fun args st =>
  let (p, n, names) := portion args
  partsOfFiles "tail" names st fun bytes =>
    let all := p.split bytes
    (match n with
      | '+' :: n => all.drop (sized n - 1)
      | n => all.drop (all.length - sized n)).flatten

/-- The bytes of all files together, with what is said about those that cannot be read. -/
def together (tool : String) (names : List (List Char)) (st : State)
    (f : List UInt8 → List UInt8) : Result :=
  let all := contents tool names st
  let complaints := all.filterMap fun (_, c) =>
    match c with
    | .ok _ => none
    | .error text => some (⟨true, Utf8.encode text⟩ : Chunk)
  let written := f (all.flatMap fun (_, c) => c.toOption.getD [])
  { state := { st.drained names with status := if anyFailed all then 1 else 0 }
    chunks := complaints ++ (if written.isEmpty then [] else [⟨false, written⟩]) }

/-- The number at the start of a line. -/
def leadingNumber (line : List UInt8) : Int :=
  let chars := trimStart (Utf8.decodeLossy line)
  match chars with
  | '-' :: rest => -(decimalNumber (rest.takeWhile Char.isDigit) : Int)
  | rest => (decimalNumber (rest.takeWhile Char.isDigit) : Int)

/-- Lines that equal the line before them are dropped. -/
def dropRepeated : List (List UInt8) → List (List UInt8)
  | a :: b :: rest => if a == b then dropRepeated (b :: rest) else a :: dropRepeated (b :: rest)
  | lines => lines

/-- Write the lines in order. -/
def sort : Tool := fun args st =>
  let (opts, names) := options args
  together "sort" names st fun bytes =>
    let text := fun (a : List UInt8) => a.map UInt8.toNat
    let before := fun (a b : List UInt8) =>
      if hasFlag opts 'n' && leadingNumber a != leadingNumber b then
        decide (leadingNumber a ≤ leadingNumber b)
      else notAfter (text a) (text b)
    let sorted := ((byteLines bytes).map withEnd).mergeSort before
    let sorted := if hasFlag opts 'r' then sorted.reverse else sorted
    (if hasFlag opts 'u' then dropRepeated sorted else sorted).flatten

/-- Write each run of equal lines once. -/
def uniq : Tool := fun args st =>
  let (opts, names) := options args
  together "uniq" (names.take 1) st fun bytes =>
    let runs := ((byteLines bytes).map withEnd).splitBy (· == ·)
    let kept := runs.filter fun run =>
      (!hasFlag opts 'd' || run.length > 1) && (!hasFlag opts 'u' || run.length == 1)
    kept.flatMap fun run =>
      (if hasFlag opts 'c' then Utf8.encode (inColumn 7 run.length ++ [' ']) else [])
        ++ run.headD []

/-- Write the lines in reverse order. -/
def tac : Tool := fun args st =>
  overFiles "tac" (options args).2 st fun _ bytes => (byteLines bytes).reverse.flatten

/-- Write each line in reverse. -/
def rev : Tool := fun args st =>
  overFiles "rev" (options args).2 st fun _ bytes =>
    (byteLines bytes).flatMap fun line =>
      Utf8.encode (Utf8.decodeLossy (withoutEnd line)).reverse
        ++ (if line.getLast? == some 10 then [10] else [])

/-- The numbers of the lines that are not empty, before them. -/
def numbered : Nat → List (List UInt8) → List UInt8
  | _, [] => []
  | n, line :: rest =>
    if (withoutEnd line).isEmpty then List.replicate 7 32 ++ line ++ numbered n rest
    else Utf8.encode (inColumn 6 n ++ ['\t']) ++ line ++ numbered (n + 1) rest

/-- Number the lines that are not empty. -/
def nl : Tool := fun args st =>
  together "nl" (options args).2 st fun bytes => numbered 1 ((byteLines bytes).map withEnd)

/-- Write the input, also to files. -/
def tee : Tool := fun args st =>
  let (opts, names) := options args
  let write := fun (r : Result) (name : List Char) =>
    let p : Path := ⟨name⟩
    let old := if hasFlag opts 'a' then (r.state.files.read p).toOption.getD [] else []
    match r.state.files.write p (old ++ st.input) with
    | .ok files => { r with state := { r.state with files } }
    | .error e =>
      { r with
        state := { r.state with status := 1 }
        chunks := ⟨true, Utf8.encode (fileComplaint "tee" name e)⟩ :: r.chunks }
  names.foldl write (emit { st with input := [] } st.input)

/-- Write a line again and again. -/
def yes : Tool := fun args st =>
  let line := Utf8.encode ((if args.isEmpty then ['y'] else joinWords args) ++ ['\n'])
  emit st (List.replicate (endless / line.length + 1) line).flatten

/-- The numbers from one to another, by a step. -/
def seq : Tool := fun args st =>
  let write := fun (first step last : Int) =>
    let count := if step == 0 then 0 else ((last - first).fdiv step + 1).toNat
    emit st (Utf8.ofString (String.join ((List.range count).map fun i =>
      toString (first + step * Int.ofNat i) ++ "\n")))
  match args.mapM integer? with
  | some [last] => write 1 1 last
  | some [first, last] => write first 1 last
  | some [first, step, last] => write first step last
  | _ => finish st 1

/-! ## Characters -/

/-- The names of sets of characters. -/
def namedSet (name : List Char) : List Char :=
  let all := (List.range 128).map Char.ofNat
  match String.ofList name with
  | "upper" => all.filter Char.isUpper
  | "lower" => all.filter Char.isLower
  | "alpha" => all.filter Char.isAlpha
  | "digit" => all.filter Char.isDigit
  | "alnum" => all.filter Char.isAlphanum
  | "space" => ['\t', '\n', '\x0b', '\x0c', '\r', ' ']
  | "blank" => ['\t', ' ']
  | "punct" => all.filter fun c => '!' ≤ c && c ≤ '~' && !c.isAlphanum
  | _ => []

/-- The bytes that a set writes; `fuel` is at least its length. -/
def byteSet : Nat → List Char → List UInt8
  | 0, _ => []
  | _ + 1, [] => []
  | fuel + 1, '[' :: ':' :: rest =>
    let name := rest.takeWhile (· != ':')
    Utf8.encode (namedSet name) ++ byteSet fuel (rest.drop (name.length + 2))
  | fuel + 1, '\\' :: c :: rest =>
    if (octalValue? c).isSome then
      let (b, rest) := octal 3 (c :: rest)
      b :: byteSet fuel rest
    else (match escapedByte? c with
      | some b => [b]
      | none => Utf8.encode [c]) ++ byteSet fuel rest
  | fuel + 1, a :: '-' :: b :: rest =>
    ((List.range (b.toNat + 1 - a.toNat)).map fun i => UInt8.ofNat (a.toNat + i)) ++ byteSet fuel rest
  | fuel + 1, c :: rest => Utf8.encode [c] ++ byteSet fuel rest

/-- Runs of one byte of a set become a single one. -/
def squeeze (set : List UInt8) : List UInt8 → List UInt8
  | a :: b :: rest =>
    if a == b && set.contains a then squeeze set (b :: rest) else a :: squeeze set (b :: rest)
  | bytes => bytes

/-- Replace, drop or squeeze characters of the input. -/
def tr : Tool := fun args st =>
  let (opts, sets) := options args
  let read := fun (i : Nat) => (sets[i]?.map fun s => byteSet s.length s).getD []
  let given := read 0
  let first :=
    if hasFlag opts 'c' || hasFlag opts 'C' then
      ((List.range 256).map UInt8.ofNat).filter fun b => !given.contains b
    else given
  let second := read 1
  let replaced :=
    if hasFlag opts 'd' then st.input.filter fun b => !first.contains b
    else if second.isEmpty then st.input
    else
      let last := second.getLast?.getD 0
      st.input.map fun b =>
        match first.idxOf? b with
        | some i => second[i]?.getD last
        | none => b
  let bytes :=
    if hasFlag opts 's' then squeeze (if second.isEmpty then first else second) replaced else replaced
  emit { st with input := [] } bytes

/-- The ranges that a list of numbers writes: the first and, unless it is open, the last. -/
def ranges (text : List Char) : List (Nat × Option Nat) :=
  (text.splitOnP (· == ',')).map fun part =>
    let low := part.takeWhile Char.isDigit
    match part.drop low.length with
    | '-' :: high =>
      (if low.isEmpty then 1 else decimalNumber low,
        if high.isEmpty then none else some (decimalNumber high))
    | _ => (decimalNumber low, some (decimalNumber low))

/-- The items at the places of some ranges. -/
def chosen {α : Type} (rs : List (Nat × Option Nat)) (items : List α) : List α :=
  ((items.zipIdx 1).filter fun (_, n) =>
    rs.any fun (low, high) => low ≤ n && high.all (n ≤ ·)).map (·.1)

/-- The value of an option with a letter, which may stand apart, and the other arguments. -/
def optionValue (letter : Char) : List (List Char) → Option (List Char) × List (List Char)
  | [] => (none, [])
  | arg :: rest =>
    match arg with
    | ['-', c] => if c == letter then (rest.head?, rest.drop 1) else
      let (v, others) := optionValue letter rest
      (v, arg :: others)
    | '-' :: c :: value => if c == letter then (some value, rest) else
      let (v, others) := optionValue letter rest
      (v, arg :: others)
    | _ =>
      let (v, others) := optionValue letter rest
      (v, arg :: others)

/-- Write parts of each line. -/
def cut : Tool := fun args st =>
  let (delimiter, args) := optionValue 'd' args
  let (fieldList, args) := optionValue 'f' args
  let (charList, args) := optionValue 'c' args
  let (byteList, args) := optionValue 'b' args
  let (opts, names) := options args
  let mark := ((Utf8.encode (delimiter.getD ['\t'])).head?).getD 9
  together "cut" names st fun bytes =>
    (byteLines bytes).flatMap fun line =>
      let body := withoutEnd line
      match fieldList with
      | some list =>
        if body.contains mark then
          ((chosen (ranges list) (body.splitOnP (· == mark))).intersperse [mark]).flatten ++ [10]
        else if hasFlag opts 's' then [] else withEnd line
      | none => chosen (ranges ((charList <|> byteList).getD [])) body ++ [10]

end LiterateSite.Shell.Tool
