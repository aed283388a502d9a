import LiterateSite.Shell.Arithmetic

/-!
# Tools

The programs that scripts call, and what they share.

* `Tool`: what a program does with its arguments.
* `contents`: the files that a tool reads.
* `echo`, `printf`: write arguments.
-/

namespace LiterateSite.Shell

open Files Text

/-- A tool, with its arguments. -/
abbrev Tool := List (List Char) → State → Result

/-- The value of a digit in base eight. -/
def octalValue? (c : Char) : Option Nat :=
  if '0' ≤ c && c ≤ '7' then some (c.toNat - '0'.toNat) else none

/-- A byte written in base eight with at most so many digits, and the rest. -/
def octal (digits : Nat) (text : List Char) : UInt8 × List Char :=
  let ds := (text.take digits).takeWhile fun c => (octalValue? c).isSome
  (UInt8.ofNat (ds.foldl (fun n c => n * 8 + (octalValue? c).getD 0) 0), text.drop ds.length)

/-- The byte that a letter after a backslash stands for. -/
def escapedByte? (c : Char) : Option UInt8 :=
  match c with
  | 'a' => some 7
  | 'b' => some 8
  | 't' => some 9
  | 'n' => some 10
  | 'v' => some 11
  | 'f' => some 12
  | 'r' => some 13
  | '\\' => some 92
  | _ => none

/-- Text with the escapes of `echo`; the flag tells that `\c` ended it. `fuel` is at least the
length. -/
def echoBytes : Nat → List Char → List UInt8 × Bool
  | 0, _ => ([], false)
  | _ + 1, [] => ([], false)
  | fuel + 1, '\\' :: c :: rest =>
    if c == 'c' then ([], true)
    else if c == '0' then
      let (b, rest) := octal 3 rest
      let (bs, stop) := echoBytes fuel rest
      (b :: bs, stop)
    else
      let here :=
        match escapedByte? c with
        | some b => [b]
        | none => Utf8.encode ['\\', c]
      let (bs, stop) := echoBytes fuel rest
      (here ++ bs, stop)
  | fuel + 1, c :: rest =>
    let (bs, stop) := echoBytes fuel rest
    (Utf8.encode [c] ++ bs, stop)

/-- Words with spaces between them. -/
def joinWords (words : List (List Char)) : List Char := (words.intersperse [' ']).flatten

/-- Write the arguments, with escapes read. -/
def echo : Tool := fun args st =>
  let (newline, args) := if args.head? == some ['-', 'n'] then (false, args.drop 1) else (true, args)
  let text := joinWords args
  let (bytes, stop) := echoBytes text.length text
  emit st (if newline && !stop then bytes ++ [10] else bytes)

/-- Write the arguments as they are. -/
def plainEcho : Tool := fun args st =>
  let (newline, args) := if args.head? == some ['-', 'n'] then (false, args.drop 1) else (true, args)
  emit st (Utf8.encode (joinWords args) ++ (if newline then [10] else []))

/-- What a format has led to so far. -/
structure Formatted where
  bytes : List UInt8 := []
  /-- The arguments that are left. -/
  left : List (List Char)
  /-- An argument has been asked for. -/
  used : Bool := false
  /-- What is wrong with arguments. -/
  complaints : List (List Char) := []
  /-- What is wrong with the format. -/
  fault : Option (List Char) := none
  deriving Repr, Inhabited

/-- The same with bytes before. -/
def Formatted.before (bytes : List UInt8) (f : Formatted) : Formatted :=
  { f with bytes := bytes ++ f.bytes }

/-- The number that an argument writes: in base ten, eight or sixteen, or as a character after a
quote. -/
def argumentNumber? (text : List Char) : Option Int :=
  match text with
  | [] => some 0
  | '\'' :: rest | '"' :: rest => some ((rest.headD '\x00').toNat : Int)
  | _ =>
    match Arithmetic.valueOfText text with
    | .ok n => some n
    | .error _ => none

/-- How a directive is written. -/
structure Directive where
  left : Bool
  plus : Bool
  zero : Bool
  width : Nat
  precision : Option Nat
  kind : Char
  deriving Repr, Inhabited

/-- A directive after its percent sign, and the rest. -/
def directive? (text : List Char) : Option (Directive × List Char) :=
  let flags := text.takeWhile fun c => "-+ #0".toList.contains c
  let text := text.drop flags.length
  let width := text.takeWhile Char.isDigit
  let text := text.drop width.length
  let (precision, text) : Option Nat × List Char :=
    match text with
    | '.' :: rest =>
      let digits := rest.takeWhile Char.isDigit
      (some (decimalNumber digits), rest.drop digits.length)
    | text => (none, text)
  match text with
  | [] => none
  | kind :: rest =>
    some ({ left := flags.contains '-', plus := flags.contains '+', zero := flags.contains '0'
            width := decimalNumber width, precision, kind }, rest)

/-- A number in a base, with its sign. -/
def Directive.number (d : Directive) (n : Int) : List Char :=
  let signed := d.kind == 'd' || d.kind == 'i'
  let magnitude := (if n < 0 && !signed then n + Int.pow 2 64 else n).natAbs
  let digits :=
    match d.kind with
    | 'x' => Nat.toDigits 16 magnitude
    | 'X' => (Nat.toDigits 16 magnitude).map Char.toUpper
    | 'o' => Nat.toDigits 8 magnitude
    | _ => Nat.toDigits 10 magnitude
  let digits := List.replicate (d.precision.getD 0 - digits.length) '0' ++ digits
  let signed := d.kind == 'd' || d.kind == 'i'
  if signed && n < 0 then '-' :: digits else if signed && d.plus then '+' :: digits else digits

/-- Bytes filled up to the width of a directive. -/
def Directive.pad (d : Directive) (numeric : Bool) (bytes : List UInt8) : List UInt8 :=
  let size := d.width - bytes.length
  if d.left then bytes ++ List.replicate size 32
  else if d.zero && numeric then
    match bytes with
    | 45 :: digits => 45 :: (List.replicate size 48 ++ digits)
    | digits => List.replicate size 48 ++ digits
  else List.replicate size 32 ++ bytes

/-- One round through a format; `fuel` is at least its length. -/
def formatOnce : Nat → List Char → List (List Char) → Formatted
  | 0, _, args => { left := args }
  | _ + 1, [], args => { left := args }
  | fuel + 1, '\\' :: c :: rest, args =>
    if (octalValue? c).isSome then
      let (b, rest) := octal 3 (c :: rest)
      (formatOnce fuel rest args).before [b]
    else
      match escapedByte? c with
      | some b => (formatOnce fuel rest args).before [b]
      | none => (formatOnce fuel rest args).before (Utf8.encode ['\\', c])
  | fuel + 1, '%' :: '%' :: rest, args => (formatOnce fuel rest args).before [37]
  | fuel + 1, '%' :: rest, args =>
    match directive? rest with
    | none => { left := args, bytes := [37] }
    | some (d, after) =>
      let arg := args.headD []
      let go := fun (numeric : Bool) (bytes : List UInt8) (complaints : List (List Char)) =>
        let f := (formatOnce fuel after (args.drop 1)).before (d.pad numeric bytes)
        { f with used := true, complaints := complaints ++ f.complaints }
      let limited := fun (bytes : List UInt8) =>
        match d.precision with
        | some n => bytes.take n
        | none => bytes
      if "diuxXo".toList.contains d.kind then
        match argumentNumber? arg with
        | some n => go true (Utf8.encode (d.number n)) []
        | none => go true (Utf8.encode (d.number 0)) [arg ++ ": expected numeric value".toList]
      else if d.kind == 'c' then go false ((Utf8.encode arg).take 1) []
      else if d.kind == 'b' then go false (limited (echoBytes arg.length arg).1) []
      else if "seEfFgG".toList.contains d.kind then go false (limited (Utf8.encode arg)) []
      else
        let written := rest.take (rest.length - after.length)
        { left := args, fault := some ('%' :: written ++ ": invalid directive".toList) }
  | fuel + 1, c :: rest, args => (formatOnce fuel rest args).before (Utf8.encode [c])

/-- The format as often as there are arguments for it; `fuel` is more than their number. -/
def formatAll (format : List Char) : Nat → List (List Char) → Formatted
  | 0, args => { left := args }
  | fuel + 1, args =>
    let f := formatOnce (format.length + 1) format args
    if f.used && !f.left.isEmpty && f.fault.isNone then
      let g := (formatAll format fuel f.left).before f.bytes
      { g with complaints := f.complaints ++ g.complaints }
    else f

/-- Write arguments in a format. -/
def printf : Tool := fun args st =>
  let args := if args.head? == some ['-', '-'] then args.drop 1 else args
  let complaint := fun (text : List Char) =>
    (⟨true, Utf8.encode (st.complaint ("printf: ".toList ++ text))⟩ : Chunk)
  match args with
  | [] => { state := { st with status := 2 }, chunks := [complaint "usage: printf format [arg ...]".toList] }
  | format :: args =>
    let f := formatAll format (args.length + 1) args
    let status := if f.fault.isSome then 2 else if f.complaints.isEmpty then 0 else 1
    { state := { st with status }
      chunks := (f.complaints ++ f.fault.toList).map complaint
        ++ (if f.bytes.isEmpty then [] else [⟨false, f.bytes⟩]) }

/-- A character may stand in a name that is shown without quotes. -/
def isPlain (c : Char) : Bool := c.isAlphanum || "_./@%+,:=-~#".toList.contains c || c.toNat > 127

/-- A file name as complaints show it: in quotes where a shell would need them. -/
def shownName (name : List Char) : List Char :=
  let special := name.head? == some '~' || name.head? == some '#'
  if !name.isEmpty && name.all isPlain && !special then name
  else if name.contains '\'' then ['"'] ++ name ++ ['"']
  else ['\''] ++ name ++ ['\'']

/-- The text of an error without its number. -/
def errorText (e : IoError) : List Char :=
  let text := e.message
  (if text.endsWith ")" then (text.splitOn " (os error").headD text else text).toList

/-- The complaint of a tool about a file. -/
def fileComplaint (tool : String) (name : List Char) (e : IoError) : List Char :=
  (tool ++ ": ").toList ++ shownName name ++ ": ".toList ++ errorText e ++ ['\n']

/-- How much is read at most from a source without an end. -/
def endless : Nat := 262144

/-- The content of a file, or of a device. -/
def readFile (t : Tree) (name : List Char) : Except IoError (List UInt8) :=
  if name == "/dev/null".toList then .ok []
  else if name == "/dev/zero".toList then .ok (List.replicate endless 0)
  else t.read ⟨name⟩

/-- The content of the named files or, without a name, of the input: each with its name, or a
complaint. -/
def contents (tool : String) (names : List (List Char)) (st : State) :
    List (List Char × Except (List Char) (List UInt8)) :=
  let names := if names.isEmpty then [['-']] else names
  names.map fun name =>
    if name == ['-'] || name == "/dev/stdin".toList then (name, .ok st.input)
    else
      match readFile st.files name with
      | .ok bytes => (name, .ok bytes)
      | .error e => (name, .error (fileComplaint tool name e))

/-- The state after the named files have been read. -/
def State.drained (st : State) (names : List (List Char)) : State :=
  if names.isEmpty || names.contains ['-'] then { st with input := [] } else st

/-- A file could not be read. -/
def anyFailed (all : List (List Char × Except (List Char) (List UInt8))) : Bool :=
  all.any fun (_, c) => c.toOption.isNone

/-- Apply a function to the content of each file. -/
def overFiles (tool : String) (names : List (List Char)) (st : State)
    (f : List Char → List UInt8 → List UInt8) : Result :=
  let all := contents tool names st
  let chunks := all.map fun (name, c) =>
    match c with
    | .ok bytes => (⟨false, f name bytes⟩ : Chunk)
    | .error text => ⟨true, Utf8.encode text⟩
  { state := { st.drained names with status := if anyFailed all then 1 else 0 }
    chunks := chunks.filter fun c => !c.bytes.isEmpty }

/-- The arguments that begin with a hyphen, and the others. -/
def options (args : List (List Char)) : List (List Char) × List (List Char) :=
  args.partition fun a => a.head? == some '-' && a.length > 1

end LiterateSite.Shell
