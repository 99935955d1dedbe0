import RegisterMachine.Device.Reader

/-!
# Files by path

A path is opened for reading or refused for a reason. A folder holds files by name,
and a path walks through it one component at a time: behind a file there is nothing
to walk to, and of what lies around the folder only the directories on the way up
are known.
-/
namespace RegisterMachine

open Text (byte ofString)

/-- Why a path cannot be opened. -/
inductive Refusal where
  | missing
  /-- The path goes on behind a file. -/
  | notDirectory
  /-- The path, or one of its components, is too long. -/
  | tooLong
  | other (reason : Text)
  deriving DecidableEq, Repr

namespace Refusal

def reason : Refusal → Text
  | .missing => ofString "no such file or directory"
  | .notDirectory => ofString "not a directory"
  | .tooLong => ofString "file name too long"
  | .other reason => reason

/-- The message about a path that is refused. -/
def message (path : Text) (refusal : Refusal) : Text :=
  ofString "open " ++ path ++ ofString ": " ++ refusal.reason

end Refusal

/-- A directory can be opened like a file, but nothing can be read from it. -/
def Reader.directory (path : Text) : Reader :=
  ⟨[], .failure (ofString "read " ++ path ++ ofString ": is a directory")⟩

/-- Files by name. -/
structure Folder where
  files : List (Text × Text)
  deriving DecidableEq, Repr

namespace Folder

/-- The most bytes that a component of a path may have. -/
def nameLimit : Nat := 255

/-- The most bytes that a path may have. -/
def pathLimit : Nat := 4095

/-- Where a path leads. -/
inductive Place where
  /-- The folder itself. -/
  | here
  /-- A directory around the folder. -/
  | around
  | file (content : Text)
  deriving DecidableEq, Repr

/-- The file of a name; the latest if there are several. -/
def find? (folder : Folder) (name : Text) : Option Text :=
  (folder.files.reverse.find? (·.1 == name)).map (·.2)

/-- One component further. Components that are empty or a dot stay in a directory. -/
def step (folder : Folder) (place : Place) (component : Text) : Except Refusal Place :=
  match place with
  | .file _ => .error .notDirectory
  | .here | .around =>
      if nameLimit < component.length then .error .tooLong
      else if component.isEmpty || component == ofString "." then .ok place
      else if component == ofString ".." then .ok .around
      else if place = .around then .error .missing
      else match folder.find? component with
        | some content => .ok (.file content)
        | none => .error .missing

/-- Where a path leads from the folder. -/
def walk (folder : Folder) (path : Text) : Except Refusal Place :=
  let start : Place := if path.head? = some (byte '/') then .around else .here
  (Text.splitOn (byte '/') path).foldlM folder.step start

/-- The device that is always empty. -/
def nullDevice : Text := ofString "/dev/null"

/-- Opens a path. -/
def openPath (folder : Folder) (path : Text) : Except Refusal Reader :=
  if path.isEmpty then .error .missing
  else if pathLimit < path.length then .error .tooLong
  else if path == nullDevice then .ok (.ofText [])
  else match folder.walk path with
    | .ok (.file content) => .ok (.ofText content)
    | .ok .here | .ok .around => .ok (.directory path)
    | .error refusal => .error refusal

end Folder

end RegisterMachine
