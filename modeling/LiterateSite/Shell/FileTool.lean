import LiterateSite.Shell.Tool
import LiterateSite.Text.Line

/-!
# Tools for files

* `list`, `baseName`, `directoryName`: look at files and paths.
* `touch`, `makeDirectory`, `remove`, `copy`: change files.
* `test`: conditions.
-/

namespace LiterateSite.Shell.Tool

open Files Text

/-- What is in a directory, one name on a line. -/
def listing (st : State) (opts : List (List Char)) (directory : List Char) : List Char :=
  match st.files.resolve ⟨directory⟩ with
  | .error _ => []
  | .ok l =>
    let has := fun (c : Char) => opts.any fun o => o.contains c
    let all := (st.files.names l).map Name.toText
    let shown :=
      if has 'a' then [['.'], ['.', '.']] ++ all
      else if has 'A' then all
      else all.filter fun n => n.head? != some '.'
    let shown := inOrder shown
    (if has 'r' then shown.reverse else shown).flatMap fun n => n ++ ['\n']

/-- List files, and what is in directories. -/
def list : Tool := fun args st =>
  let (opts, names) := options args
  let names := if names.isEmpty then [['.']] else inOrder names
  let missing := names.filterMap fun n =>
    match st.files.stat ⟨n⟩ with
    | .ok _ => none
    | .error e => some ("ls: cannot access '".toList ++ n ++ "': ".toList ++ errorText e ++ ['\n'])
  let whole := opts.any fun o => o.contains 'd'
  let isListed := fun (n : List Char) => !whole && st.files.isDir ⟨n⟩
  let files := names.filter fun n => st.files.exists ⟨n⟩ && !isListed n
  let directories := names.filter isListed
  let titled := fun (n : List Char) =>
    if names.length ≤ 1 then listing st opts n
    else n ++ [':', '\n'] ++ listing st opts n
  let groups := (if files.isEmpty then [] else [files.flatMap fun n => n ++ ['\n']])
    ++ directories.map titled
  let bytes := Utf8.encode (groups.intersperse ['\n']).flatten
  { state := { st with status := if missing.isEmpty then 0 else 2 }
    chunks := missing.map (fun m => (⟨true, Utf8.encode m⟩ : Chunk))
      ++ (if bytes.isEmpty then [] else [⟨false, bytes⟩]) }

/-- The last part of a path. -/
def baseName : Tool := fun args st =>
  match args with
  | [] => finish st 1
  | path :: rest =>
    let part := (Path.last ⟨path⟩).2
    let suffix := rest.headD []
    let part := if suffix.isSuffixOf part && suffix != part then part.take (part.length - suffix.length) else part
    emit st (Utf8.encode (part ++ ['\n']))

/-- The path without its last part. -/
def directoryName : Tool := fun args st =>
  match args with
  | [] => finish st 1
  | path :: _ =>
    let before := Path.trimEnd (Path.last ⟨path⟩).1
    emit st (Utf8.encode ((if before.isEmpty then ['.'] else before) ++ ['\n']))

/-- Change the files at each of some paths; `doing` tells what fails if it fails. -/
def changeFiles (doing : String) (names : List (List Char)) (st : State)
    (f : Tree → Path → Except IoError Tree) : Result :=
  names.foldl (fun (r : Result) name =>
    match f r.state.files ⟨name⟩ with
    | .ok files => { r with state := { r.state with files } }
    | .error e =>
      { r with
        state := { r.state with status := 1 }
        chunks := r.chunks ++ [⟨true, Utf8.encode (doing.toList ++ " '".toList ++ name ++ "': ".toList
          ++ errorText e ++ ['\n'])⟩] })
    { state := { st with status := 0 } }

/-- Create files that are not there. -/
def touch : Tool := fun args st =>
  changeFiles "touch: cannot touch" (options args).2 st fun t p => if t.exists p then .ok t else t.write p []

/-- Create directories. -/
def makeDirectory : Tool := fun args st =>
  let (opts, names) := options args
  changeFiles "mkdir: cannot create directory" names st fun t p =>
    if opts.contains ['-', 'p'] then
      match t.createDirAll p with
      | (t, .ok ()) => .ok t
      | (_, .error e) => .error e
    else t.createDir p

/-- Remove files. -/
def remove : Tool := fun args st =>
  let (opts, names) := options args
  let has := fun (c : Char) => opts.any fun o => o.contains c
  changeFiles "rm: cannot remove" names st fun t p =>
    match if has 'r' || has 'R' then t.removeAll p else t.unlink p with
    | .ok t => .ok t
    | .error .notFound => if has 'f' then .ok t else .error .notFound
    | .error e => .error e

/-- Copy a file; a file that is moved is removed. -/
def copy (move : Bool) : Tool := fun args st =>
  let tool := if move then "mv" else "cp"
  match (options args).2 with
  | [a, b] =>
    let target : Path := if st.files.isDir ⟨b⟩ then Path.join ⟨b⟩ ⟨(Path.last ⟨a⟩).2⟩ else ⟨b⟩
    match st.files.read ⟨a⟩ with
    | .error .isDirectory =>
      complain st ((tool ++ ": -r not specified; omitting directory '").toList ++ a ++ ['\'', '\n'])
    | .error e =>
      complain st ((tool ++ ": cannot stat '").toList ++ a ++ "': ".toList ++ errorText e ++ ['\n'])
    | .ok bytes =>
      match st.files.write target bytes with
      | .error e =>
        complain st ((tool ++ ": cannot create regular file '").toList ++ target.chars ++ "': ".toList
          ++ errorText e ++ ['\n'])
      | .ok t => finish { st with files := if move then (t.unlink ⟨a⟩).toOption.getD t else t } 0
  | [a] =>
    complain st ((tool ++ ": missing destination file operand after '").toList ++ a ++ "'\nTry '".toList
      ++ (tool ++ " --help' for more information.\n").toList)
  | _ => finish st 1

/-- Whether a file has a property, by the letter of the property. -/
def property? (st : State) (letter : Char) (w : List Char) : Option Bool :=
  let p : Path := ⟨w⟩
  match letter with
  | 'n' => some !w.isEmpty
  | 'z' => some w.isEmpty
  | 'e' | 'r' | 'w' => some (st.files.exists p || w == "/dev/null".toList)
  | 'f' => some (st.files.isFile p)
  | 'd' | 'x' => some (st.files.isDir p)
  | 'h' | 'L' =>
    some (match st.files.stat p false with
      | .ok (.link _) => true
      | _ => false)
  | 's' =>
    some (match st.files.read p with
      | .ok bytes => !bytes.isEmpty
      | .error _ => false)
  | 't' | 'b' | 'p' | 'S' | 'u' | 'g' | 'k' => some false
  | 'c' => some (w == "/dev/null".toList)
  | _ => none

/-- The comparisons of numbers. -/
def comparison? (op : List Char) : Option (Int → Int → Bool) :=
  match String.ofList op with
  | "-eq" => some (· == ·)
  | "-ne" => some (· != ·)
  | "-lt" => some (· < ·)
  | "-le" => some (· ≤ ·)
  | "-gt" => some (· > ·)
  | "-ge" => some (· ≥ ·)
  | _ => none

/-- A number in a condition. -/
def testNumber (text : List Char) : Except (List Char) Int :=
  match integer? text with
  | some n => .ok n
  | none => .error ("Illegal number: ".toList ++ text)

/-- Whether a condition holds, or what is wrong with it; `fuel` is more than the number of words. -/
def condition (st : State) : Nat → List (List Char) → Except (List Char) Bool
  | 0, _ => .ok false
  | fuel + 1, words =>
    let unexpectedOperator := fun (w : List Char) => .error (w ++ ": unexpected operator".toList)
    match words with
    | [] => .ok false
    | [w] => .ok !w.isEmpty
    | [op, w] =>
      match op with
      | ['!'] => .ok w.isEmpty
      | ['-', c] =>
        match property? st c w with
        | some b => .ok b
        | none => unexpectedOperator op
      | _ =>
        if (comparison? w).isSome || w == ['='] then .error (w ++ ": argument expected".toList)
        else unexpectedOperator op
    | [a, op, b] =>
      match comparison? op with
      | some f => do return f (← testNumber a) (← testNumber b)
      | none =>
        match String.ofList op with
        | "=" | "==" => .ok (a == b)
        | "!=" => .ok (a != b)
        | "<" => .ok (a.map Char.toNat < b.map Char.toNat)
        | ">" => .ok (b.map Char.toNat < a.map Char.toNat)
        | "-a" => .ok (!a.isEmpty && !b.isEmpty)
        | "-o" => .ok (!a.isEmpty || !b.isEmpty)
        | _ =>
          if a == ['!'] then (condition st fuel [op, b]).map (!·)
          else if a == ['('] && b == [')'] then .ok !op.isEmpty
          else unexpectedOperator a
    | words =>
      let split := fun (op : List Char) =>
        let before := words.takeWhile (· != op)
        if before.length < words.length then some (before, words.drop (before.length + 1)) else none
      match split ['-', 'o'] with
      | some (a, b) => do return (← condition st fuel a) || (← condition st fuel b)
      | none =>
        match split ['-', 'a'] with
        | some (a, b) => do return (← condition st fuel a) && (← condition st fuel b)
        | none =>
          if words.head? == some ['!'] then (condition st fuel (words.drop 1)).map (!·)
          else unexpectedOperator (words[3]?.getD [])

/-- Test a condition. -/
def test (name : String) : Tool := fun args st =>
  match condition st (args.length + 2) args with
  | .ok true => finish st 0
  | .ok false => finish st 1
  | .error text => complain st (st.complaint (name.toList ++ ": ".toList ++ text)) 2

/-- Test a condition that a bracket closes. -/
def bracket : Tool := fun args st =>
  if args.getLast? == some [']'] then test "[" args.dropLast st
  else complain st (st.complaint "[: missing ]".toList) 2

end LiterateSite.Shell.Tool
