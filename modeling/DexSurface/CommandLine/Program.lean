import DexSurface.CommandLine.Arguments
import DexSurface.Configuration.Document
import DexSurface.Dex.Container
import DexSurface.Extraction
import DexSurface.Text.Table
import DexSurface.Total

/-!
# Running commands

A command reads files, prints a report if it succeeds, and names its failure otherwise.  An
extraction also leaves an output archive behind, even if it fails while writing it.
-/

namespace DexSurface

namespace CommandLine

/-- The environment variable that holds the boot class path. -/
def bootClassPathVariable : String := "BOOTCLASSPATH"

/-- Why a command fails. -/
inductive Failure where
  | configurationFile (path : String) (cause : RunError)
  | bootClassPathMissing
  | noInputs
  | extraction (output : String) (cause : RunError)
  | opening (path : String) (cause : Dex.ContainerError)
  | images (cause : Dex.ContainerError)
  deriving Repr, DecidableEq

/-- The text of a failure, without its cause where it names what was tried. -/
def Failure.message : Failure → String
  | .configurationFile path _ => "Failed to load config " ++ path
  | .bootClassPathMissing => bootClassPathVariable ++ " is not set"
  | .noInputs => "No input containers given"
  | .extraction output _ => "Failed to extract " ++ output
  | .opening path _ => "Failed to open " ++ path
  | .images cause => cause.message

namespace ExtractArguments

/-- The standard configuration, or that of the configuration file. -/
def baseConfiguration (arguments : ExtractArguments) (files : Files) :
    Except Failure Configuration :=
  match arguments.configurationFile with
  | none => .ok .standard
  | some path => (Configuration.load files path).mapError (.configurationFile path)

/-- A configuration with the changes that arguments ask for. -/
def adjust (arguments : ExtractArguments) (base : Configuration) : Configuration where
  stubInitializer := base.stubInitializer && !arguments.noStubInitializer
  hiddenApiAnnotations := base.hiddenApiAnnotations && !arguments.noHiddenApi
  appendResourceBlocks := base.appendResourceBlocks && !arguments.noResources
  appendResourceFiles := base.appendResourceFiles && !arguments.noResources
  resourceArchive := arguments.resourceArchive.getD base.resourceArchive
  resourceIdNamespace := base.resourceIdNamespace
  compressionLevel := base.compressionLevel

/-- The configuration of an extraction. -/
def configuration (arguments : ExtractArguments) (files : Files) :
    Except Failure Configuration := do
  return arguments.adjust (← arguments.baseConfiguration files)

/-- The paths of the inputs: those of the boot class path, or those that were named. -/
def inputPaths (arguments : ExtractArguments) (bootClassPath : Option (List String)) :
    Except Failure (List String) := do
  let paths ←
    if arguments.bootClassPath then
      match bootClassPath with
      | some paths => pure paths
      | none => .error .bootClassPathMissing
    else
      pure arguments.inputs
  if paths.isEmpty then .error .noInputs else return paths

end ExtractArguments

/-- The boot class path that a variable holds; an empty one counts as absent. -/
def bootClassPathOf (held? : Option String) : Option (List String) :=
  (held?.map Configuration.bootClassPath).filter fun paths => !paths.isEmpty

/-- What a command leaves behind. -/
structure Outcome where
  exitCode : UInt32
  /-- The report of a command that succeeded. -/
  report : Option String
  failure : Option Failure
  /-- A command was run, so a log was kept. -/
  logged : Bool
  events : Array Event
  /-- The entries of the output archive, if it was created. -/
  output : Option (List ArchiveEntry)
  files : Files

/-- The text of what was wrong underneath a failure, if its own text leaves that out. -/
def Failure.cause? : Failure → Option String
  | .configurationFile _ cause | .extraction _ cause => some cause.message
  | .opening _ cause => some cause.message
  | .bootClassPathMissing | .noInputs | .images _ => none

/-- The lines of a log: events that only help to find mistakes are left out. -/
def Outcome.logLines (outcome : Outcome) : List String :=
  (outcome.events.toList.filter fun event => event.level != .debug).map fun event =>
    event.level.label ++ " " ++ event.message

/-- Lines as a text. -/
def textOf (lines : List String) : String :=
  String.join (lines.map fun line => line ++ "\n")

/-- The report of an extraction. -/
def extractionReport (summary : ExtractionSummary) (output : String) : String :=
  textOf [
    "Extraction complete!",
    "Classes:       " ++ Nat.repr summary.classes,
    "Stubs:         " ++ Nat.repr summary.package.stubs,
    "Skeletons:     " ++ Nat.repr summary.package.skeletons,
    "Resources:     " ++ Nat.repr summary.package.resources,
    "Entries:       " ++ Nat.repr summary.package.entries,
    "Output:        " ++ output
  ]

/-- A command that could not be carried out. -/
def failed (files : Files) (failure : Failure) : Outcome where
  exitCode := 1
  report := none
  failure := some failure
  logged := true
  events := #[]
  output := none
  files

/-- A command that was carried out. -/
def succeeded (files : Files) (report : String) : Outcome where
  exitCode := 0
  report := some report
  failure := none
  logged := true
  events := #[]
  output := none
  files

/-- A command that broke off because a counter overflowed; what it was to print is lost. -/
def brokenOff (files : Files) : Outcome where
  exitCode := 101
  report := some ""
  failure := none
  logged := true
  events := #[]
  output := none
  files

/-- An outcome with what a run reported and wrote. -/
def Outcome.withJournal (outcome : Outcome) (path : String) (journal : Journal) : Outcome :=
  let output := journal.output.map Array.toList
  let files :=
    match output, outcome.files.target? path with
    | some entries, some place => outcome.files.put place (.archive entries)
    | _, _ => outcome.files
  { outcome with events := journal.events, output, files }

/-- The configuration and the inputs of an extraction. -/
def preparation (files : Files) (bootClassPath : Option String) (arguments : ExtractArguments) :
    Except Failure (Configuration × List String) := do
  let configuration ← arguments.configuration files
  let inputs ← arguments.inputPaths (bootClassPathOf bootClassPath)
  return (configuration, inputs)

/-- The run of an extraction. -/
def extraction (configuration : Configuration) (files : Files) (inputs : List String)
    (output : String) : Run ExtractionSummary := do
  Run.report (.runStarted inputs.length output)
  Extraction.run configuration files (Dex.source files) inputs output

/-- Extract the stubs of the inputs. -/
def extract (files : Files) (bootClassPath : Option String) (arguments : ExtractArguments) :
    Outcome :=
  match preparation files bootClassPath arguments with
  | .error failure => failed files failure
  | .ok (configuration, inputs) =>
      let output := arguments.output
      match (extraction configuration files inputs output).run .empty with
      | .ok summary journal =>
          (succeeded files (extractionReport summary output)).withJournal output journal
      | .error .counterOverflow journal => (brokenOff files).withJournal output journal
      | .error error journal =>
          (failed files (.extraction output error)).withJournal output journal

/-- The row of an image in a report. -/
def imageRow (image : String × Dex.Image) : List String :=
  [image.1, threeDigits image.2.version, Nat.repr image.2.classCount]

/-- The number of classes in images. -/
def classCount (images : List (String × Dex.Image)) : Nat :=
  total (fun image => image.2.classCount) images

/-- The report of an inspection. -/
def inspectionReport (path : String) (images : List (String × Dex.Image)) : String :=
  if images.isEmpty then
    textOf ["No dex images found in " ++ path]
  else
    textOf
      (Table.lines ["Entry", "Version", "Classes"] (images.map imageRow)
        ++ ["Total classes: " ++ Nat.repr (classCount images)])

/-- List the images of a container; the number of their classes must fit four bytes. -/
def inspect (files : Files) (path : String) : Outcome :=
  match Dex.Container.open? files path with
  | .error error => failed files (.opening path error)
  | .ok container =>
      match container.images with
      | (_, some error) => failed files (.images error)
      | (images, none) =>
          if classCount images < Bytes.span 4 then
            succeeded files (inspectionReport path images)
          else
            brokenOff files

/-- The paths that decide what else a command reads. -/
def firstPaths : Command → List String
  | .extract arguments => arguments.configurationFile.toList
  | .inspect path => [path]

/-- The paths that a command reads once its first paths are read, and the one that it writes. -/
def furtherPaths (files : Files) (bootClassPath : Option String) : Command → List String
  | .extract arguments =>
      match preparation files bootClassPath arguments with
      | .error _ => []
      | .ok (configuration, inputs) =>
          inputs ++ [configuration.resourceArchive, arguments.output]
  | .inspect _ => []

/-- What is left behind when no command is run. -/
def refused (files : Files) (refusal : Refusal) : Outcome where
  exitCode := refusal.exitCode
  report := none
  failure := none
  logged := false
  events := #[]
  output := none
  files

/-- Run a command. -/
def perform (files : Files) (bootClassPath : Option String) : Command → Outcome
  | .extract arguments => extract files bootClassPath arguments
  | .inspect path => inspect files path

/-- Run the command that arguments describe. -/
def run (files : Files) (bootClassPath : Option String) (arguments : List String) : Outcome :=
  match parse arguments with
  | .error refusal => refused files refusal
  | .ok command => perform files bootClassPath command

end CommandLine

end DexSurface
