/-
What a command line asks for, and how a command ends.

* **Task** — what to do;
* **Settings** — how to print and log;
* **Exit** — the exit codes;
* **Failure** — the failures that lead to them.
-/
import EepromImage.Log.Event

namespace EepromImage

/-! ### Tasks -/

/-- The kind of artifact that a file name suggests by the letters behind its last dot. -/
def ArtifactKind.ofExtension? (ext : String) : Option ArtifactKind :=
  let lower := String.ofList (ext.toList.map Char.toLower)
  if ["hex", "ihex", "eep"].contains lower then some .hex
  else if ["bin", "raw"].contains lower then some .binary
  else if ["c", "h", "inc"].contains lower then some .listing
  else none

def ArtifactKind.all : List ArtifactKind :=
  [.listing, .hex, .binary]

namespace Cli

/-- The last name in a path, unless it leads up; a dot for the directory itself is no name. -/
def fileName? (path : String) : Option (List Char) :=
  let names := (path.toList.splitOn '/').filter fun cs => !cs.isEmpty && cs ≠ ['.']
  names.getLast?.filter (· ≠ ['.', '.'])

/-- The letters behind the last dot of a file name; a dot in front makes no extension. -/
def extension? (path : String) : Option String :=
  (fileName? path).bind fun name =>
    let letters := (name.reverse.takeWhile (· ≠ '.')).reverse
    let stem := name.take (name.length - letters.length - 1)
    if stem.isEmpty || letters.length = name.length then none
    else some (String.ofList letters)

/-- What to compile, and where to. -/
structure CompileTask where
  /-- The file with the slot table. -/
  table : String
  /-- The file for the artifact; standard output if missing. -/
  output : Option String := none
  /-- The kind of the artifact; by the name of its file if missing. -/
  emit : Option ArtifactKind := none
  /-- Whether Intel HEX ends with an end-of-file record, whatever the table says. -/
  eofRecord : Bool := false
  /-- The base address, whatever the table says. -/
  baseAddress : Option UInt32 := none
deriving DecidableEq, Repr

/-- The kind of artifact to make: the one asked for, else the one that the file's name
suggests, else a listing. -/
def CompileTask.kind (task : CompileTask) : ArtifactKind :=
  (task.emit.or ((task.output.bind extension?).bind ArtifactKind.ofExtension?)).getD .listing

/-- What to read back. -/
structure InspectTask where
  /-- The file with the image. -/
  image : String
  frameSize : Nat := defaultFrameSize
  /-- The number of slots; by the containers if missing. -/
  slots : Option Nat := none
  /-- Whether the file holds raw bytes instead of Intel HEX. -/
  binary : Bool := false
deriving DecidableEq, Repr

/-- What to do. -/
inductive Task
  | compile (task : CompileTask)
  /-- Lays out the table in the file and prints the layout. -/
  | check (table : String)
  | inspect (task : InspectTask)
  | catalog
  | version (extended : Bool)
deriving DecidableEq, Repr

/-- How to print and log. -/
structure Settings where
  format : Report.Format
  logFormat : Log.Format := .text
  logLevel : Log.Level := .info
deriving DecidableEq, Repr

/-! ### Ends -/

/-- The end of a command. -/
inductive Exit
  | success
  /-- A file is missing or unusable. -/
  | failure
  | permissionDenied
  /-- The data are at fault. -/
  | dataInvalid
  /-- The arguments are well formed and make no sense. -/
  | usage
  /-- The program or its surroundings are at fault. -/
  | internal
  /-- The arguments are not well formed. -/
  | badArguments
  /-- A report could not be printed. -/
  | aborted
deriving DecidableEq, Repr

def Exit.code : Exit → UInt8
  | .success => 0
  | .failure => 1
  | .permissionDenied => 50
  | .dataInvalid => 60
  | .usage => 64
  | .internal => 125
  | .badArguments => 2
  | .aborted => 101

/-- The ends that commands are meant to have. -/
def Exit.documented : List Exit :=
  [.success, .failure, .permissionDenied, .dataInvalid, .usage, .internal]

/-- Why a command ends early. -/
structure Failure where
  exit : Exit
  message : String
deriving DecidableEq, Repr

/-- What a failure tells on standard error.  An aborted program leaves the words to its
runtime. -/
def Failure.line (f : Failure) : String :=
  if f.exit = .aborted then f.message else "error: " ++ f.message ++ "\n"

/-- A failed access to a file. -/
def Failure.ofFile (context : String) (e : FileError) : Failure :=
  ⟨match e with
    | .permissionDenied => .permissionDenied
    | .notFound => .failure
    | .notText => .dataInvalid
    | .notDirectory | .isDirectory | .nameTooLong | .noSpace | .other _ => .internal,
    context ++ ": " ++ e.message⟩

/-- An image that cannot be compiled or read. -/
def Failure.ofImage (context : String) (e : ImageError) : Failure :=
  ⟨match e with
    | .load .. => .failure
    | e => if e.errorClass = .internal then .internal else .dataInvalid,
    context ++ ": " ++ e.message⟩

end Cli

end EepromImage
