import AlertRelay.Text.Lines

/-!
# Files by path

The files below a directory, and what a path leads to: a text, a directory, or nothing. A path is a
list of names, of which some lead upwards; what lies above the directory is a directory without
known files. Names and paths have a greatest length, and a name that exceeds it cannot even be
looked for.
-/

namespace AlertRelay.Config

inductive Found where
  | missing
  | nameTooLong
  | directory
  | text (s : String)
  deriving DecidableEq

/-- The names of a path; empty ones and those of the directory itself lead nowhere else. -/
def pathNames (path : String) : List String :=
  ((Text.fields '/' path.toList).map String.ofList).filter fun name => name != "" && name != "."

/-- The root at which a path starts, if it does not start at the directory: one slash, or two if
there are exactly two. -/
def rootOf (path : String) : String :=
  match (path.toList.takeWhile (· == '/')).length with
  | 0 => ""
  | 2 => "//"
  | _ => "/"

def isAbsolute (path : String) : Bool := rootOf path != ""

def plainPath (path : String) : String :=
  let joined := rootOf path ++ String.intercalate "/" (pathNames path)
  if joined.isEmpty then "." else joined

/-- How many bytes a name may have. -/
def nameLimit : Nat := 255

/-- How many bytes a path may have. -/
def pathLimit : Nat := 4095

structure Files where
  entries : List (List String × Option String)

namespace Files

/-- Files and directories by path; a directory has no text. -/
def ofPaths (entries : List (String × Option String)) : Files :=
  ⟨entries.map fun (path, text) => (pathNames path, text)⟩

/-- What names below the directory lead to. A directory need not be listed if something in it is. -/
def lookup (files : Files) (names : List String) : Found :=
  match files.entries.lookup names with
  | some (some text) => .text text
  | some none => .directory
  | none =>
    if names.isEmpty || files.entries.any fun (names', _) => names.isPrefixOf names' then .directory
    else .missing

/-- Follows names from a place below the directory; `above` counts the steps out of it. -/
def follow (files : Files) (above : Nat) (place : List String) : List String → Found
  | [] => if above = 0 then files.lookup place else .directory
  | ".." :: names =>
    if 0 < above then files.follow (above + 1) place names
    else if files.lookup place != .directory then .missing
    else if place.isEmpty then files.follow 1 [] names
    else files.follow 0 place.dropLast names
  | name :: names =>
    if above = 0 && files.lookup place != .directory then .missing
    else if nameLimit < name.utf8ByteSize then .nameTooLong
    else if 0 < above then .missing
    else files.follow 0 (place ++ [name]) names

def find (files : Files) (path : String) : Found :=
  if pathLimit < (plainPath path).utf8ByteSize then .nameTooLong
  else files.follow (if isAbsolute path then 1 else 0) [] (pathNames path)

end Files

end AlertRelay.Config
