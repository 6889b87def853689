/-
Running tasks.

A task reads at most one file and writes at most one; nothing is written before the whole
artifact exists.

* **perform** — a task, in any surroundings;
* **run** — a command line, in any surroundings, up to its end.
-/
import EepromImage.Cli.Host
import EepromImage.Document.Reader

namespace EepromImage.Cli

/-- Tables larger than this are refused before they are parsed. -/
def maxTableSize : Nat := 256 * 1024

/-- The frames of a slot table, with the settings for its artifacts. -/
structure LoadedTable where
  table : SlotTable
  listing : ListingOptions
  hex : HexOptions

section

variable {m : Type → Type} [Monad m] [Host m]

/-! ### Output -/

/-- Logs an event, if it passes. -/
def log (settings : Settings) (event : Log.Event) : m Unit :=
  if settings.logLevel.shows event.severity then do
    Host.writeErr (event.line (← Host.now) settings.logFormat)
  else pure ()

/-- Logs one event after another. -/
def logAll (settings : Settings) : List Log.Event → m Unit
  | [] => pure ()
  | event :: rest => do
    log settings event
    logAll settings rest

/-- Prints a report; where one cannot be printed, the runtime aborts the program. -/
def printReport (text : String) : ExceptT Failure m Unit := do
  match ← Host.writeOut (utf8Bytes text) with
  | .ok () => pure ()
  | .error e => throw ((← Host.toolchain).unprinted e)

/-! ### Input -/

/-- The text of a table file. -/
def readTable (path : String) : ExceptT LoadFault m (List UInt8 × String) := do
  match ← Host.fileSize path with
  | .error e => throw (.file e)
  | .ok size =>
    if maxTableSize < size then throw (.tooLarge size maxTableSize)
    match ← Host.readFile path (some (maxTableSize + 1)) with
    | .error e => throw (.file e)
    | .ok bytes =>
      match utf8Text? bytes with
      | none => throw (.file .notText)
      | some text =>
        if maxTableSize < bytes.length then throw (.grew maxTableSize)
        return (bytes, text)

/-- The slot table that a text holds, with the settings for its artifacts. -/
def tableOfText (text : String) : Except ImageError LoadedTable := do
  let document ← TableDocument.parse text.toList
  return ⟨← document.table, document.listing, document.hex⟩

/-- The slot table in a file. -/
def loadTable (settings : Settings) (path : String) : ExceptT Failure m LoadedTable := do
  let context := "load " ++ path
  match ← (readTable path).run with
  | .error fault => throw (.ofImage context (.load path fault))
  | .ok (bytes, text) =>
    log settings (Log.loaded path bytes.length)
    match tableOfText text with
    | .error e => throw (.ofImage context e)
    | .ok loaded => return loaded

/-- The image of a table. -/
def layOut (settings : Settings) (context : String) (table : SlotTable) :
    ExceptT Failure m Image := do
  logAll settings (Log.allocating table)
  match table.allocate with
  | .error e => throw (.ofImage context e)
  | .ok image => return image

/-! ### Tasks -/

/-- The Intel HEX options of a table, with those of the command line on top. -/
def CompileTask.hexOptions (task : CompileTask) (declared : HexOptions) : HexOptions where
  baseAddress := task.baseAddress.getD declared.baseAddress
  eofRecord := task.eofRecord || declared.eofRecord

/-- Writes an artifact to a file and reports on it. -/
def deliver (settings : Settings) (image : Image) (kind : ArtifactKind) (path : String)
    (artifact : List UInt8) : ExceptT Failure m Unit := do
  match ← Host.writeFile path artifact with
  | .error e => throw (.ofFile ("write " ++ path) e)
  | .ok () =>
    log settings (Log.written path kind artifact.length)
    printReport (Report.summary ⟨image, kind, path, artifact.length⟩ settings.format)

/-- Compiles a table. -/
def compile (settings : Settings) (task : CompileTask) : ExceptT Failure m Exit := do
  let loaded ← loadTable settings task.table
  let image ← layOut settings "compile" loaded.table
  match image.render task.kind loaded.listing (task.hexOptions loaded.hex) with
  | .error e => throw (.ofImage "render" e)
  | .ok artifact =>
    match task.output with
    | some path => deliver settings image task.kind path artifact
    | none =>
      match ← Host.writeOut artifact with
      | .error e => throw (.ofFile "write stdout" e)
      | .ok () => pure ()
    return .success

/-- Lays out a table and prints the layout. -/
def check (settings : Settings) (path : String) : ExceptT Failure m Exit := do
  let loaded ← loadTable settings path
  let image ← layOut settings "check" loaded.table
  printReport (Report.layout image settings.format)
  return .success

/-- The bytes of an Intel HEX text, and the upper half of its base address. -/
def bytesOfHex (text : String) : Except ImageError (List UInt8 × Option UInt16) := do
  let file ← HexFile.parse text.toList
  return (← file.bytes, file.extendedAddress?)

/-- The bytes of an image in a file, and the upper half of its base address. -/
def readImage (settings : Settings) (context : String) (task : InspectTask) :
    ExceptT Failure m (List UInt8 × Option UInt16) := do
  match ← Host.readFile task.image none with
  | .error e => throw (.ofFile context e)
  | .ok bytes =>
    if task.binary then return (bytes, none)
    match utf8Text? bytes with
    | none => throw (.ofFile context .notText)
    | some text =>
      logAll settings ((HexFile.skippedIn text.toList).map Log.skipped)
      match bytesOfHex text with
      | .error e => throw (.ofImage context e)
      | .ok result => return result

/-- Reads an image back and prints what it holds. -/
def inspectImage (settings : Settings) (task : InspectTask) : ExceptT Failure m Exit := do
  match FrameLayout.ofSize task.frameSize with
  | .error e => throw ⟨.usage, "--frame-size: " ++ e.message⟩
  | .ok layout =>
    let context := "inspect " ++ task.image
    let (bytes, upper) ← readImage settings context task
    match inspect layout task.slots bytes with
    | .error e => throw (.ofImage context e)
    | .ok inspection =>
      logAll settings (inspection.problems.map Log.problem)
      printReport (Report.inspection ⟨inspection, bytes, upper⟩ settings.format)
      return if inspection.isConsistent then .success else .dataInvalid

/-- Performs a task. -/
def perform (settings : Settings) : Task → ExceptT Failure m Exit
  | .compile task => compile settings task
  | .check path => check settings path
  | .inspect task => inspectImage settings task
  | .catalog => do
    printReport (Report.catalog settings.format)
    return .success
  | .version extended => do
    printReport (Report.version (← Host.toolchain).provenance extended)
    return .success

/-! ### Command lines -/

/-- Performs a task up to its end; a failure is told on standard error. -/
def execute (settings : Settings) (task : Task) : m Exit := do
  match ← (perform settings task).run with
  | .ok exit => return exit
  | .error failure =>
    Host.writeErr failure.line
    return failure.exit

/-- What stands in for a command line that asks for no task. -/
def answerStop (args : List String) : Stop → m Exit
  | .refused why => do
    Host.writeErr ((← Host.toolchain).refusal args why)
    return .badArguments
  | .help => do
    let _ ← Host.writeOut (utf8Bytes ((← Host.toolchain).help args))
    return .success
  | .version => do
    let _ ← Host.writeOut (utf8Bytes (Report.version none false))
    return .success

/-- Runs a command line.  `standard` is the form of reports where none is asked for,
`environment` the log level that the environment gives. -/
def run (standard : Report.Format) (environment : Option String) (args : List String) :
    m Exit :=
  match parse standard environment args with
  | .ok (settings, task) => execute settings task
  | .error stop => answerStop args stop

end

end EepromImage.Cli
