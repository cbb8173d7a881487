import DatasetPicker.Failure

/-!
# Files

The files that a run of the program finds, as a tree of folders. Files are read as text,
and the journal is appended to a file that need not be there yet.
-/

namespace DatasetPicker

/-- What stands under a name. -/
inductive Entry where
  | file (content : ByteArray)
  | folder (entries : List (String × Entry))
  deriving Inhabited

/-- The files of a run. -/
structure Files where
  /-- What paths from the root lead to. -/
  root : List (String × Entry) := []
  /-- What paths without the root lead to. -/
  here : List (String × Entry) := []

namespace Files

/-- Why a path leads to no text. -/
inductive Refusal where
  | missing
  | notFolder
  | isFolder
  | nameTooLong
  | zeroInPath
  | notText
  /-- Another reason, in the words of the system. -/
  | other (words : String)
  deriving DecidableEq, Repr

/-- The text of a refusal. -/
def Refusal.message : Refusal → String
  | .missing => "No such file or directory (os error 2)"
  | .notFolder => "Not a directory (os error 20)"
  | .isFolder => "Is a directory (os error 21)"
  | .nameTooLong => "File name too long (os error 36)"
  | .zeroInPath => "file name contained an unexpected NUL byte"
  | .notText => "stream did not contain valid UTF-8"
  | .other words => words

/-- The greatest length of a name, in bytes. -/
def greatestName : Nat := 255

/-- The length that a path must not reach, in bytes. -/
def pathBound : Nat := 4096

/-- The entry under a name. -/
def child? (name : String) : Entry → Except Refusal (Option Entry)
  | .file _ => .error .notFolder
  | .folder entries =>
    if greatestName < name.utf8ByteSize then .error .nameTooLong
    else .ok (entries.lookup name)

/-- Goes along the names of a path. The way back is kept for the name that leads up. With
`create`, folders that are not there count as empty. -/
def walk (create : Bool) (entry : Entry) (above : List Entry) :
    List String → Except Refusal Entry
  | [] => .ok entry
  | name :: rest =>
    if name = "" ∨ name = "." then
      match entry with
      | .file _ => .error .notFolder
      | .folder _ => walk create entry above rest
    else if name = ".." then
      match entry, above with
      | .file _, _ => .error .notFolder
      | .folder _, [] => walk create entry [] rest
      | .folder _, parent :: above => walk create parent above rest
    else do
      match ← child? name entry with
      | some found => walk create found (entry :: above) rest
      | none =>
        if create then walk create (.folder []) (entry :: above) rest
        else .error .missing

/-- The names of a path. -/
def names (path : String) : List String := (path.toList.splitOn '/').map String.ofList

/-- A path that can be asked for. -/
def checkPath (path : String) : Except Refusal Unit :=
  if path.toList.contains '\x00' then .error .zeroInPath
  else if path.isEmpty then .error .missing
  else if pathBound ≤ path.utf8ByteSize then .error .nameTooLong
  else .ok ()

/-- The entry where the names of a path lead. -/
def entry (files : Files) (create : Bool) (path : String) (names : List String) :
    Except Refusal Entry :=
  if path.startsWith "/" then walk create (.folder files.root) [] names
  else walk create (.folder files.here) [.folder files.root] names

/-- The text of a file. -/
def read (files : Files) (path : String) : Except Refusal String := do
  checkPath path
  match ← files.entry false path (names path) with
  | .folder _ => .error .isFolder
  | .file content =>
    match String.fromUTF8? content with
    | some text => .ok text
    | none => .error .notText

/-- Whether a file can be appended to. The folders that lead to it are made if they are
not there. -/
def checkAppend (files : Files) (path : String) : Except Refusal Unit := do
  checkPath path
  let all := names path
  let name := all.getLast?.getD ""
  let folder ← files.entry true path all.dropLast
  if ["", ".", ".."].contains name then .error .isFolder
  match ← child? name folder with
  | some (.folder _) => .error .isFolder
  | _ => .ok ()

end Files

end DatasetPicker
