/-!
# Command-line arguments

The first argument names a command.  Its arguments are inputs, flags and options with values, in any
order; a double dash makes everything behind it an input.  A value that stands in an argument of its
own is checked when the next argument is understood, so an earlier mistake can be overtaken by an
unknown argument.
-/

namespace DexSurface

namespace CommandLine

/-- What is shown instead of running a command. -/
inductive Refusal where
  /-- The help that was asked for. -/
  | help
  /-- The version that was asked for. -/
  | version
  /-- The help, because no command was named. -/
  | missingCommand
  /-- No command has the name that was given. -/
  | unknownCommand
  /-- No argument like the one that was given is expected. -/
  | unknownArgument
  /-- A value is missing or empty. -/
  | invalidValue
  /-- A flag was given a value. -/
  | unexpectedValue
  /-- An argument was repeated, or excludes another one. -/
  | conflict
  /-- An input is missing. -/
  | missingInput
  deriving Repr, DecidableEq

/-- The exit code: only what was asked for is no failure. -/
def Refusal.exitCode : Refusal → UInt32
  | .help | .version => 0
  | _ => 2

/-- Only what was asked for is shown as a result. -/
def Refusal.isAskedFor (refusal : Refusal) : Bool :=
  refusal.exitCode = 0

/-- What is wrong with the arguments. -/
def Refusal.message : Refusal → String
  | .help => "help"
  | .version => "version"
  | .missingCommand => "a command is missing"
  | .unknownCommand => "there is no such command"
  | .unknownArgument => "an argument is not expected"
  | .invalidValue => "a value is missing or empty"
  | .unexpectedValue => "a flag takes no value"
  | .conflict => "an argument is repeated or excludes another one"
  | .missingInput => "an archive is missing"

/-- Arguments without a value. -/
inductive Flag where
  | bootClassPath
  | noStubInitializer
  | noHiddenApi
  | noResources
  deriving Repr, DecidableEq

/-- Arguments with a value. -/
inductive Setting where
  | output
  | configuration
  | resourceArchive
  deriving Repr, DecidableEq

/-- What the arguments of a command can be. -/
structure Grammar where
  /-- The flags by their long names. -/
  flags : List (String × Flag)
  /-- The options by their long names. -/
  settings : List (String × Setting)
  /-- The options by their short names. -/
  letters : List (Char × Setting)
  /-- The largest number of inputs, if there is one. -/
  maxInputs : Option Nat

/-- The values of an argument that is not complete yet. -/
inductive Pending where
  | nothing
  | setting (name : Setting) (value : Option String)
  | inputs (values : List String)
  deriving Repr, DecidableEq

/-- What has been understood so far. -/
structure Understood where
  flags : List Flag
  settings : List (Setting × String)
  inputs : List String
  pending : Pending
  /-- Only inputs follow. -/
  onlyInputs : Bool
  deriving Repr, DecidableEq

namespace Understood

/-- Nothing has been understood yet. -/
def nothing : Understood where
  flags := []
  settings := []
  inputs := []
  pending := .nothing
  onlyInputs := false

/-- The value of an option. -/
def value? (understood : Understood) (name : Setting) : Option String :=
  (understood.settings.find? fun setting => setting.1 = name).map Prod.snd

/-- Set an option, which must not be set already, to a value, which must not be empty. -/
def set (understood : Understood) (name : Setting) (value : String) :
    Except Refusal Understood :=
  if (understood.value? name).isSome then
    .error .conflict
  else if value.isEmpty then
    .error .invalidValue
  else
    .ok { understood with settings := (name, value) :: understood.settings }

/-- Complete the pending argument. -/
def complete (understood : Understood) : Except Refusal Understood :=
  let rest := { understood with pending := .nothing }
  match understood.pending with
  | .nothing => .ok rest
  | .setting _ none => .error .invalidValue
  | .setting name (some value) => rest.set name value
  | .inputs values =>
      if values.any String.isEmpty then
        .error .invalidValue
      else
        .ok { rest with inputs := rest.inputs ++ values }

/-- The inputs that have been seen, also those that are pending. -/
def seenInputs (understood : Understood) : List String :=
  match understood.pending with
  | .inputs values => understood.inputs ++ values
  | _ => understood.inputs

/-- Another input may follow. -/
def acceptsInput (grammar : Grammar) (understood : Understood) : Bool :=
  match grammar.maxInputs with
  | none => true
  | some limit => understood.seenInputs.length < limit

/-- Take an input. -/
def addInput (grammar : Grammar) (understood : Understood) (input : String) :
    Except Refusal Understood :=
  if !understood.acceptsInput grammar then
    .error .unknownArgument
  else
    match understood.pending with
    | .inputs values => .ok { understood with pending := .inputs (values ++ [input]) }
    | _ => do
        return { ← understood.complete with pending := .inputs [input] }

/-- Take a flag, which must not be repeated. -/
def addFlag (understood : Understood) (flag : Flag) : Except Refusal Understood := do
  let completed ← understood.complete
  if completed.flags.contains flag then
    .error .conflict
  else
    return { completed with flags := flag :: completed.flags }

/-- Take an option with a value attached, or wait for its value. -/
def addSetting (understood : Understood) (name : Setting) (attached : Option String) :
    Except Refusal Understood := do
  let completed ← understood.complete
  match attached with
  | some value => completed.set name value
  | none => return { completed with pending := .setting name none }

/-- The help is asked for, unless the pending argument is wrong. -/
def askHelp (understood : Understood) : Except Refusal Understood := do
  let _ ← understood.complete
  .error .help

end Understood

/-- The long name of help. -/
def helpName : String := "help"

/-- The short name of help. -/
def helpLetter : Char := 'h'

/-- A long name and the value behind its first equals sign. -/
def splitLong (text : List Char) : String × Option String :=
  let name := String.ofList (text.takeWhile fun letter => letter ≠ '=')
  match text.dropWhile fun letter => letter ≠ '=' with
  | [] => (name, none)
  | _ :: value => (name, some (String.ofList value))

/-- Take an argument that starts with two dashes. -/
def addLong (grammar : Grammar) (understood : Understood) (text : List Char) :
    Except Refusal Understood :=
  let (name, attached) := splitLong text
  match grammar.settings.lookup name with
  | some setting => understood.addSetting setting attached
  | none =>
      match grammar.flags.lookup name, attached with
      | some _, some _ => .error .unexpectedValue
      | some flag, none => understood.addFlag flag
      | none, _ =>
          if name ≠ helpName then .error .unknownArgument
          else if attached.isSome then .error .unexpectedValue
          else understood.askHelp

/-- The value behind a short name, with or without an equals sign. -/
def attachedToLetter : List Char → Option String
  | [] => none
  | '=' :: value => some (String.ofList value)
  | value => some (String.ofList value)

/-- Take an argument that starts with one dash. -/
def addShort (grammar : Grammar) (understood : Understood) (letter : Char) (rest : List Char) :
    Except Refusal Understood :=
  match grammar.letters.lookup letter with
  | some setting => understood.addSetting setting (attachedToLetter rest)
  | none => if letter = helpLetter then understood.askHelp else .error .unknownArgument

/-- Take an argument that is no name: the value that an option waits for, or an input. -/
def addPlain (grammar : Grammar) (understood : Understood) (argument : String) :
    Except Refusal Understood :=
  match understood.pending with
  | .setting name none => .ok { understood with pending := .setting name (some argument) }
  | _ => understood.addInput grammar argument

/-- Take the next argument. -/
def add (grammar : Grammar) (understood : Understood) (argument : String) :
    Except Refusal Understood :=
  if understood.onlyInputs then
    understood.addInput grammar argument
  else
    match argument.toList with
    | ['-', '-'] => .ok { understood with onlyInputs := true }
    | '-' :: '-' :: text => addLong grammar understood text
    | '-' :: letter :: rest => addShort grammar understood letter rest
    | _ => addPlain grammar understood argument

/-- Understand all arguments of a command. -/
def understand (grammar : Grammar) (arguments : List String) : Except Refusal Understood := do
  (← arguments.foldlM (add grammar) .nothing).complete

/-- The arguments of an extraction. -/
structure ExtractArguments where
  inputs : List String
  /-- Take the inputs from the boot class path. -/
  bootClassPath : Bool
  output : String
  configurationFile : Option String
  noStubInitializer : Bool
  noHiddenApi : Bool
  noResources : Bool
  resourceArchive : Option String
  deriving Repr, DecidableEq

/-- The commands. -/
inductive Command where
  | extract (arguments : ExtractArguments)
  | inspect (path : String)
  deriving Repr, DecidableEq

/-- The name of a command. -/
def Command.name : Command → String
  | .extract _ => "extract"
  | .inspect _ => "inspect"

/-- What the arguments of an extraction can be. -/
def extractGrammar : Grammar where
  flags := [
    ("bootclasspath", .bootClassPath),
    ("no-stub-initializer", .noStubInitializer),
    ("no-hidden-api", .noHiddenApi),
    ("no-resources", .noResources)
  ]
  settings := [
    ("output", .output),
    ("config", .configuration),
    ("resource-archive", .resourceArchive)
  ]
  letters := [('o', .output), ('c', .configuration)]
  maxInputs := none

/-- What the arguments of an inspection can be. -/
def inspectGrammar : Grammar where
  flags := []
  settings := []
  letters := []
  maxInputs := some 1

/-- The output archive if none is named. -/
def standardOutput : String := "android.jar"

/-- The extraction that arguments describe; inputs exclude the boot class path. -/
def extractCommand (arguments : List String) : Except Refusal Command := do
  let understood ← understand extractGrammar arguments
  let bootClassPath := understood.flags.contains .bootClassPath
  if bootClassPath && !understood.inputs.isEmpty then
    .error .conflict
  else
    return .extract {
      inputs := understood.inputs
      bootClassPath
      output := (understood.value? .output).getD standardOutput
      configurationFile := understood.value? .configuration
      noStubInitializer := understood.flags.contains .noStubInitializer
      noHiddenApi := understood.flags.contains .noHiddenApi
      noResources := understood.flags.contains .noResources
      resourceArchive := understood.value? .resourceArchive
    }

/-- The inspection that arguments describe. -/
def inspectCommand (arguments : List String) : Except Refusal Command := do
  match (← understand inspectGrammar arguments).inputs with
  | path :: _ => return .inspect path
  | [] => .error .missingInput

/-- The names of the commands. -/
def commandNames : List String := ["extract", "inspect", helpName]

/-- What is shown for a request for help about a command. -/
def helpAbout : List String → Refusal
  | [] => .help
  | [name] => if commandNames.contains name then .help else .unknownCommand
  | _ => .unknownCommand

/-- What is shown for a first argument that names no command. -/
def refusalOf (argument : String) : Refusal :=
  match argument.toList with
  | '-' :: '-' :: text =>
      let (name, attached) := splitLong text
      if name ≠ helpName ∧ name ≠ "version" then .unknownArgument
      else if attached.isSome then .unexpectedValue
      else if name = helpName then .help
      else .version
  | '-' :: letter :: _ =>
      if letter = helpLetter then .help else if letter = 'V' then .version else .unknownArgument
  | _ => .unknownCommand

/-- What is shown for arguments behind a double dash that comes first. -/
def refusalBehindDashes : List String → Refusal
  | [] => .missingCommand
  | first :: _ => if commandNames.contains first then .unknownArgument else .unknownCommand

/-- The command that arguments describe. -/
def parse : List String → Except Refusal Command
  | [] => .error .missingCommand
  | first :: rest =>
      if first = "extract" then extractCommand rest
      else if first = "inspect" then inspectCommand rest
      else if first = helpName then .error (helpAbout rest)
      else if first = "--" then .error (refusalBehindDashes rest)
      else .error (refusalOf first)

end CommandLine

end DexSurface
