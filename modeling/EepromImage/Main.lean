/-
The program: a command line, run in the surroundings of the process.
-/
import EepromImage.Cli.Run

namespace EepromImage.Cli

/-- The cause of a failed access, as far as commands tell causes apart. -/
def fileErrorOf : IO.Error → FileError
  | .noFileOrDirectory .. => .notFound
  | .permissionDenied .. => .permissionDenied
  | .inappropriateType _ code details =>
    if code = 20 then .notDirectory else if code = 21 then .isDirectory else .other details
  | .resourceExhausted _ code details => if code = 28 then .noSpace else .other details
  | .invalidArgument _ code details => if code = 36 then .nameTooLong else .other details
  | e => .other e.toString

/-- An action of which the failure is an answer. -/
def attempt {α : Type} (action : IO α) : IO (Except FileError α) := do
  try
    return .ok (← action)
  catch e =>
    return .error (fileErrorOf e)

/-- The cause in words. -/
def Refusal.message : Refusal → String
  | .unknownOption arg => "unexpected argument " ++ arg
  | .needlessValue name => "unexpected value for --" ++ name
  | .missingValue name => "a value is required for --" ++ name
  | .badValue name value => "invalid value " ++ value ++ " for --" ++ name
  | .repeated name => "--" ++ name ++ " cannot be used multiple times"
  | .unknownTask word => "unrecognized subcommand " ++ word
  | .missingTask => "a subcommand is required"
  | .surplusWord word => "unexpected argument " ++ word
  | .missingFile => "a file is required"
  | .badEnvironment value => "invalid log level " ++ value ++ " in the environment"

/-- One line for each task, with its options. -/
def usage : String :=
  Report.unlines (TaskName.all.map fun task =>
    " ".intercalate ([Report.programName, task.text] ++ List.replicate task.files "FILE"
      ++ task.options.map fun o => "[--" ++ o.name ++ "]"))

/-- The texts of this program: it was told nothing about its build. -/
def toolchain : Toolchain where
  provenance := some {}
  help _ := usage
  refusal _ why := "error: " ++ why.message ++ "\n"

instance : Host IO where
  fileSize path := attempt do
    let content ← IO.FS.readBinFile path
    return content.size
  readFile path limit := attempt do
    let content := (← IO.FS.readBinFile path).data.toList
    return match limit with
      | some n => content.take n
      | none => content
  writeFile path content := attempt (IO.FS.writeBinFile path ⟨content.toArray⟩)
  writeOut content := attempt do
    let out ← IO.getStdout
    out.write ⟨content.toArray⟩
    out.flush
  writeErr text := IO.eprint text
  -- log lines of this program bear no time
  now := return none
  toolchain := return toolchain

end EepromImage.Cli

/-- Runs the command line of the process. -/
def main (args : List String) : IO UInt32 := do
  let standard : EepromImage.Report.Format :=
    if ← (← IO.getStdout).isTty then .table else .json
  let exit ← EepromImage.Cli.run standard (← IO.getEnv "SCALPGEN_LOG") args
  return exit.code.toUInt32
