import LiterateSite.Shell.FileTool
import LiterateSite.Shell.Search
import LiterateSite.Text.Sha256

/-!
# The toolbox

* `tool?`: a tool by its name.
-/

namespace LiterateSite.Shell

open Files Text Tool

/-- Write the digest of each file. -/
def sha256sum : Tool := fun args st =>
  overFiles "sha256sum" (options args).2 st fun name bytes =>
    Utf8.ofString (Sha256.hex bytes) ++ Utf8.encode (' ' :: ' ' :: name ++ ['\n'])

/-- Write the path of the working directory. -/
def workingDirectory : Tool := fun _ st => emit st (Utf8.encode (st.here ++ ['\n']))

/-- The name of a program without the directory of the system's programs. -/
def programName (program : List Char) : List Char :=
  if "/bin/".toList.isPrefixOf program then program.drop 5
  else if "/usr/bin/".toList.isPrefixOf program then program.drop 9
  else program

/-- A tool by its name. -/
def tool? (name : List Char) : Option Tool :=
  match String.ofList (programName name) with
  | "printf" => some printf
  | "cat" => some cat
  | "wc" => some wc
  | "head" => some head
  | "tail" => some tail
  | "sort" => some sort
  | "uniq" => some uniq
  | "tac" => some tac
  | "rev" => some rev
  | "nl" => some nl
  | "tee" => some tee
  | "yes" => some yes
  | "seq" => some seq
  | "tr" => some tr
  | "cut" => some cut
  | "grep" => some grep
  | "sed" => some sed
  | "sha256sum" => some sha256sum
  | "ls" => some list
  | "basename" => some baseName
  | "dirname" => some directoryName
  | "touch" => some touch
  | "mkdir" => some makeDirectory
  | "rm" => some remove
  | "cp" => some (copy false)
  | "mv" => some (copy true)
  | "true" | "sleep" | "sync" | "chmod" => some fun _ st => finish st 0
  | "false" => some fun _ st => finish st 1
  | "uname" => some fun _ st => emit st (Utf8.ofString "Linux\n")
  | "test" => some (test "test")
  | "[" => some bracket
  | "pwd" => some workingDirectory
  | _ => none

end LiterateSite.Shell
