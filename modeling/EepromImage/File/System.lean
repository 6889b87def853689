/-
A file system as a value: directories and files with their contents.

* **FileError** — why a file cannot be read or written: the causes that commands tell apart
  have names of their own, and the texts are those of the operating system;
* **FileSystem.locate** — where a path leads, or what stands in its way;
* **FileSystem.read** — the content of a file;
* **FileSystem.write** — the file system with a new content for one file; a refused write
  changes nothing.
-/
namespace EepromImage

/-! ### Errors -/

/-- A failed access to a file. -/
inductive FileError
  /-- The name, or a directory on the way to it, does not exist. -/
  | notFound
  /-- The way leads through something that is no directory. -/
  | notDirectory
  /-- A directory stands where a file is asked for. -/
  | isDirectory
  /-- A name on the way, or the whole path, is too long. -/
  | nameTooLong
  /-- There is no room left. -/
  | noSpace
  /-- The content is asked for as text and is not UTF-8. -/
  | notText
  /-- The access is not allowed. -/
  | permissionDenied
  /-- Any other cause, in the words of the system. -/
  | other (text : String)
deriving DecidableEq, Repr

def FileError.message : FileError → String
  | .notFound => "No such file or directory (os error 2)"
  | .notDirectory => "Not a directory (os error 20)"
  | .isDirectory => "Is a directory (os error 21)"
  | .noSpace => "No space left on device (os error 28)"
  | .nameTooLong => "File name too long (os error 36)"
  | .notText => "stream did not contain valid UTF-8"
  | .permissionDenied => "Permission denied (os error 13)"
  | .other text => text

/-! ### Contents -/

/-- What stands at a place. -/
inductive Node
  | file (content : List UInt8)
  | directory
deriving DecidableEq, Repr

/-- The names on the way from the root. -/
abbrev Place := List String

/-- Directories and files by place.  The root needs no entry. -/
structure FileSystem where
  entries : List (Place × Node)
  /-- Where relative paths start. -/
  workingDirectory : Place

namespace FileSystem

/-! ### Places -/

/-- The longest name in a directory, in bytes. -/
def maxName : Nat := 255

/-- Paths are shorter than this, in bytes. -/
def pathBound : Nat := 4096

/-- What stands at a place. -/
def node? (fs : FileSystem) (place : Place) : Option Node :=
  if place = [] then some .directory else fs.entries.lookup place

/-- The file system with something new at a place. -/
def put (fs : FileSystem) (place : Place) (node : Node) : FileSystem :=
  { fs with entries := (place, node) :: fs.entries.eraseP fun e => e.1 == place }

/-- One step down or up from a directory. -/
def step (place : Place) (name : String) : Except FileError Place :=
  if name = "." then .ok place
  else if name = ".." then .ok place.dropLast
  else if maxName < name.utf8ByteSize then .error .nameTooLong
  else .ok (place ++ [name])

/-- One step into a directory. -/
def enter (fs : FileSystem) (place : Place) (name : String) : Except FileError Place :=
  match step place name with
  | .error e => .error e
  | .ok next =>
    match fs.node? next with
    | none => .error .notFound
    | some (.file _) => .error .notDirectory
    | some .directory => .ok next

/-! ### Paths -/

/-- The names in a path. -/
def pathNames (path : String) : List String :=
  ((path.toList.splitOn '/').filter fun cs => !cs.isEmpty).map String.ofList

/-- Where the path starts. -/
def startOf (fs : FileSystem) (path : String) : Place :=
  if path.toList.head? = some '/' then [] else fs.workingDirectory

/-- Whether the path ends in a slash, and so can only mean a directory. -/
def endsInSlash (path : String) : Bool :=
  path.toList.getLast? = some '/'

/-- The place that a path means, whose directory has to exist. -/
def locate (fs : FileSystem) (path : String) : Except FileError Place := do
  if path.isEmpty then throw .notFound
  if pathBound ≤ path.utf8ByteSize then throw .nameTooLong
  let names := pathNames path
  let directory ← names.dropLast.foldlM fs.enter (fs.startOf path)
  match names.getLast? with
  | some name => step directory name
  | none => return directory

/-! ### Access -/

/-- The content of a file. -/
def read (fs : FileSystem) (path : String) : Except FileError (List UInt8) := do
  match fs.node? (← fs.locate path) with
  | none => throw .notFound
  | some .directory => throw .isDirectory
  | some (.file content) => if endsInSlash path then throw .notDirectory else return content

/-- The file system with a content for the file, which is made if it is missing. -/
def write (fs : FileSystem) (path : String) (content : List UInt8) :
    Except FileError FileSystem := do
  let place ← fs.locate path
  if endsInSlash path || fs.node? place = some .directory then throw .isDirectory
  return fs.put place (.file content)

end FileSystem

end EepromImage
