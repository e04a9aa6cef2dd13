import DexSurface.Archive.Zip
import DexSurface.CommandLine.Program

/-!
# The program

The outer layer reads the files that a command asks for, runs the command, writes its output archive
and its log, and prints what it reports.
-/

namespace DexSurface

namespace CommandLine

/-- A directory stands under a path. -/
def isDirectoryOnDisk (path : String) : IO Bool := do
  try
    return ← (← IO.FS.realPath path).isDir
  catch _ =>
    return false

/-- What stands under a path. -/
def readContent? (path : String) : IO (Option FileContent) := do
  if ← isDirectoryOnDisk path then
    return some .directory
  else
    try
      return some (.plain (← IO.FS.readBinFile path))
    catch _ =>
      return none

/-- The paths that lead to a path, and the path itself. -/
def leadingPaths (path : String) : List String :=
  let parts := Path.parts path
  (List.range parts.length).map fun less => "/".intercalate (parts.take (less + 1))

/-- The files under some paths and the directories above them. -/
def readFiles (paths : List String) : IO Files := do
  let mut named : List (String × FileContent) := []
  for path in paths.flatMap leadingPaths do
    if let some content ← readContent? path then
      named := named ++ [(path, content)]
  return Files.ofList named

/-- The files that a command needs. -/
def gather (bootClassPath : Option String) (command : Command) : IO Files := do
  let first := firstPaths command
  let files ← readFiles first
  readFiles (first ++ furtherPaths files bootClassPath command)

/-- How the program is called. -/
def usage : String :=
  textOf [
    "Usage: dexsurface extract [OPTIONS] [INPUT]...",
    "       dexsurface inspect ARCHIVE",
    "",
    "Options of extract:",
    "      --bootclasspath            read the inputs from " ++ bootClassPathVariable,
    "  -o, --output OUTPUT            destination archive (" ++ standardOutput ++ ")",
    "  -c, --config CONFIG            configuration document",
    "      --no-stub-initializer      no throwing static initializer",
    "      --no-hidden-api            no restriction annotations",
    "      --no-resources             no resource entries",
    "      --resource-archive PATH    archive of the resource entries"
  ]

/-- The version of the program. -/
def versionLine : String := "dexsurface 0.1.0\n"

/-- Show what is shown instead of running a command. -/
def showRefusal (refusal : Refusal) : IO Unit := do
  match refusal with
  | .help => IO.print usage
  | .version => IO.print versionLine
  | _ => do
      IO.eprintln ("error: " ++ refusal.message)
      IO.eprint usage

/-- The directory of the log files. -/
def logDirectory : IO String := do
  return (← IO.getEnv "HOME").getD "." ++ "/.dexsurface/logs"

/-- Add the log of a command to its log file; that it cannot be kept is no failure. -/
def keepLog (command : Command) (outcome : Outcome) : IO Unit := do
  if outcome.logged then
    try
      let directory ← logDirectory
      IO.FS.createDirAll directory
      let log ← IO.FS.Handle.mk (directory ++ "/" ++ command.name ++ ".log") .append
      log.putStr (textOf outcome.logLines)
    catch _ =>
      return

/-- Print the log and the failure of a command. -/
def printProgress (outcome : Outcome) : IO Unit := do
  IO.eprint (textOf outcome.logLines)
  if let some failure := outcome.failure then
    IO.eprintln ("Error: " ++ failure.message)
    if let some cause := failure.cause? then
      IO.eprintln ("\nCaused by:\n    " ++ cause)

/-- Write the archive that a command left under the path of its output. -/
def writeArchive (command : Command) (outcome : Outcome) : IO Unit :=
  match command, outcome.output with
  | .extract arguments, some entries =>
      IO.FS.writeBinFile arguments.output (Zip.write entries)
  | _, _ => pure ()

/-- Run a command on the files of the system. -/
def runOnDisk (command : Command) : IO UInt32 := do
  let bootClassPath ← IO.getEnv bootClassPathVariable
  let outcome := perform (← gather bootClassPath command) bootClassPath command
  writeArchive command outcome
  keepLog command outcome
  printProgress outcome
  if let some report := outcome.report then
    IO.print report
  return outcome.exitCode

end CommandLine

end DexSurface

/-- Run the command that the arguments describe; the result is the exit code. -/
def main (arguments : List String) : IO UInt32 := do
  match DexSurface.CommandLine.parse arguments with
  | .error refusal => do
      DexSurface.CommandLine.showRefusal refusal
      return refusal.exitCode
  | .ok command => DexSurface.CommandLine.runOnDisk command
