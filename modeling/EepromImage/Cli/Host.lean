/-
The surroundings of a command: files, standard output, standard error, a clock, and the tools
that the program was built with.

* **Toolchain** — the texts that these tools add to what the program says;
* **Host** — what commands may do, in whatever monad;
* **Sandbox** — surroundings as a value, so that a run is a function from surroundings to
  surroundings.
-/
import EepromImage.Cli.Arguments
import EepromImage.Report.Content

namespace EepromImage.Cli

/-- The texts that the program takes from the tools it was built with. -/
structure Toolchain where
  /-- Where the build comes from; withheld where reports are to be those of any build. -/
  provenance : Option Report.Provenance := none
  /-- What the runtime writes when it aborts the program, by the cause. -/
  abortText : String → String := fun cause => cause ++ "\n"
  /-- What the reader of command lines answers to arguments that ask for help. -/
  help : List String → String := fun _ => ""
  /-- What it says to arguments that it refuses. -/
  refusal : List String → Refusal → String := fun _ _ => ""

/-- A report could not be printed. -/
def Toolchain.unprinted (tools : Toolchain) (e : FileError) : Failure :=
  ⟨.aborted, tools.abortText ("failed printing to stdout: " ++ e.message)⟩

/-- What a command may do to its surroundings. -/
class Host (m : Type → Type) where
  /-- The size of a file in bytes. -/
  fileSize : String → m (Except FileError Nat)
  /-- The content of a file, or as much of it as is asked for. -/
  readFile : String → Option Nat → m (Except FileError (List UInt8))
  /-- Gives a file a content. -/
  writeFile : String → List UInt8 → m (Except FileError Unit)
  /-- Writes to standard output. -/
  writeOut : List UInt8 → m (Except FileError Unit)
  /-- Writes to standard error. -/
  writeErr : String → m Unit
  /-- The time of day for log lines, if there is a clock. -/
  now : m (Option String)
  /-- The tools that the program was built with. -/
  toolchain : m Toolchain

/-- Actions that may fail reach the same surroundings. -/
instance {ε : Type} {m : Type → Type} [Monad m] [Host m] : Host (ExceptT ε m) where
  fileSize path := ExceptT.lift (Host.fileSize path)
  readFile path limit := ExceptT.lift (Host.readFile path limit)
  writeFile path content := ExceptT.lift (Host.writeFile path content)
  writeOut content := ExceptT.lift (Host.writeOut content)
  writeErr text := ExceptT.lift (Host.writeErr text)
  now := ExceptT.lift Host.now
  toolchain := ExceptT.lift Host.toolchain

/-- An access to a file. -/
inductive Access
  | measure (path : String)
  | read (path : String)
  | write (path : String)
deriving DecidableEq, Repr

/-- Surroundings as a value. -/
structure Sandbox where
  files : FileSystem
  /-- What the system refuses for reasons of its own, such as permissions or a full disk. -/
  refusal : Access → Option FileError := fun _ => none
  /-- What was written to standard output. -/
  out : List UInt8 := []
  /-- What was written to standard error. -/
  err : String := ""
  /-- Whether standard output takes nothing more. -/
  outFull : Bool := false
  /-- What the clock shows; it stands still while a command runs. -/
  clock : Option String := none
  toolchain : Toolchain := {}

namespace Sandbox

/-- The size of a file; a directory is small. -/
def fileSize (s : Sandbox) (path : String) : Except FileError Nat :=
  match s.refusal (.measure path), s.files.read path with
  | some e, _ => .error e
  | none, .ok content => .ok content.length
  | none, .error .isDirectory => .ok 0
  | none, .error e => .error e

/-- The content of a file, or as much of it as is asked for. -/
def readFile (s : Sandbox) (path : String) (limit : Option Nat) :
    Except FileError (List UInt8) :=
  match s.refusal (.read path), limit with
  | some e, _ => .error e
  | none, none => s.files.read path
  | none, some n => (s.files.read path).map (List.take n)

/-- Gives a file a content; a refused write changes nothing. -/
def writeFile (s : Sandbox) (path : String) (content : List UInt8) :
    Except FileError Unit × Sandbox :=
  match s.refusal (.write path), s.files.write path content with
  | some e, _ => (.error e, s)
  | none, .ok files => (.ok (), { s with files })
  | none, .error e => (.error e, s)

/-- Writes to standard output; a full one refuses everything but nothing. -/
def writeOut (s : Sandbox) (content : List UInt8) : Except FileError Unit × Sandbox :=
  if s.outFull && !content.isEmpty then (.error .noSpace, s)
  else (.ok (), { s with out := s.out ++ content })

/-- Writes to standard error. -/
def writeErr (s : Sandbox) (text : String) : Sandbox :=
  { s with err := s.err ++ text }

instance : Host (StateM Sandbox) where
  fileSize path := fun s => (s.fileSize path, s)
  readFile path limit := fun s => (s.readFile path limit, s)
  writeFile path content := fun s => s.writeFile path content
  writeOut content := fun s => s.writeOut content
  writeErr text := fun s => ((), s.writeErr text)
  now := fun s => (s.clock, s)
  toolchain := fun s => (s.toolchain, s)

end Sandbox
end EepromImage.Cli
