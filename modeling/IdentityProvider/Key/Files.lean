import IdentityProvider.Bytes

/-!
# Files that hold keys

A path is walked from the working directory, one name at a time. The working
directory has some files and some empty directories; of the directories around
it nothing is known but that they have no keys.
-/

namespace IdentityProvider

structure Files where
  files : List (String × Bytes)
  directories : List String

inductive FileFault where
  | notFound
  | isDirectory
  | notDirectory
  | nameTooLong
  | zeroByte
  deriving Repr, DecidableEq

def FileFault.message : FileFault → String
  | .notFound => "No such file or directory (os error 2)"
  | .isDirectory => "Is a directory (os error 21)"
  | .notDirectory => "Not a directory (os error 20)"
  | .nameTooLong => "File name too long (os error 36)"
  | .zeroByte => "file name contained an unexpected NUL byte"

namespace Files

/-- Where a path has led so far. -/
inductive Place where
  | outside
  | working
  | directory
  | file (content : Bytes)

def maxName : Nat := 255
def maxPath : Nat := 4095

/-- A name that is found in the working directory. -/
def enter (fs : Files) (name : String) : Except FileFault Place :=
  match fs.files.find? fun f => f.1 = name with
  | some (_, content) => .ok (.file content)
  | none => if fs.directories.contains name then .ok .directory else .error .notFound

/-- One step along a path. An empty name and `.` stay, and `..` goes up. -/
def step (fs : Files) (place : Place) (name : String) : Except FileFault Place :=
  match place with
  | .file _ => .error .notDirectory
  | place =>
    if name = "" ∨ name = "." then .ok place
    else if maxName < name.utf8ByteSize then .error .nameTooLong
    else match place with
      | .working => if name = ".." then .ok .outside else fs.enter name
      | .directory => if name = ".." then .ok .working else .error .notFound
      | _ => if name = ".." then .ok .outside else .error .notFound

def names (path : String) : List String :=
  (Bytes.splitOn 47 (Bytes.ofString path)).map fun name => name.toString?.getD ""

def walk (fs : Files) (path : String) : Except FileFault Place :=
  let start : Place := if path.startsWith "/" then .outside else .working
  (names path).foldlM fs.step start

def read (fs : Files) (path : String) : Except FileFault Bytes :=
  if path.contains '\x00' then .error .zeroByte
  else if path = "" then .error .notFound
  else if maxPath < path.utf8ByteSize then .error .nameTooLong
  else match fs.walk path with
    | .ok (.file content) => .ok content
    | .ok _ => .error .isDirectory
    | .error fault => .error fault

end Files

end IdentityProvider
