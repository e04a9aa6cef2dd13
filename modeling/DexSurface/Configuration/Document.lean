import DexSurface.Configuration
import DexSurface.Files
import DexSurface.RunError
import DexSurface.Text.JsonReader

/-!
# Configuration documents

A configuration is kept as a JSON object with a member for each setting, or as an array of the
settings in order.  Settings that are left out have their standard values.  Members of other names
are passed over, but a setting must not be repeated.
-/

namespace DexSurface

namespace Configuration

/-- A setting: its name in documents, how it is changed, and how it is written. -/
structure Setting where
  name : String
  change? : Configuration → JsonValue → Option Configuration
  text : Configuration → String

/-- A truth value in a document. -/
def truthText (value : Bool) : String :=
  if value then "true" else "false"

/-- An integer in a document. -/
def integerText (value : Int) : String :=
  match value with
  | .ofNat magnitude => Nat.repr magnitude
  | .negSucc less => "-" ++ Nat.repr (less + 1)

/-- The settings in the order of an array. -/
def settings : List Setting :=
  [
    {
      name := "stub_initializer"
      change? old value := value.asBool?.map fun new => { old with stubInitializer := new }
      text configuration := truthText configuration.stubInitializer
    },
    {
      name := "hidden_api_annotations"
      change? old value := value.asBool?.map fun new => { old with hiddenApiAnnotations := new }
      text configuration := truthText configuration.hiddenApiAnnotations
    },
    {
      name := "append_resource_blocks"
      change? old value := value.asBool?.map fun new => { old with appendResourceBlocks := new }
      text configuration := truthText configuration.appendResourceBlocks
    },
    {
      name := "append_resource_files"
      change? old value := value.asBool?.map fun new => { old with appendResourceFiles := new }
      text configuration := truthText configuration.appendResourceFiles
    },
    {
      name := "resource_archive"
      change? old value := value.asText?.map fun new => { old with resourceArchive := new }
      text configuration := JsonText.quote configuration.resourceArchive
    },
    {
      name := "resource_id_namespace"
      change? old value := value.asText?.map fun new => { old with resourceIdNamespace := new }
      text configuration := JsonText.quote configuration.resourceIdNamespace
    },
    {
      name := "compression_level"
      change? old value := value.asInt64?.map fun new => { old with compressionLevel := new }
      text configuration := integerText configuration.compressionLevel.toInt
    }
  ]

/-- The setting of a name. -/
def setting? (name : String) : Option Setting :=
  settings.find? fun setting => setting.name = name

/-- Take members in order; a setting must not be among the names that were taken before. -/
def ofMembers? (taken : List String) (configuration : Configuration) :
    List (Option String × JsonValue) → Option Configuration
  | [] => some configuration
  | (none, _) :: _ => none
  | (some name, value) :: rest =>
      match setting? name with
      | none => ofMembers? taken configuration rest
      | some setting =>
          if taken.contains name then
            none
          else do
            ofMembers? (name :: taken) (← setting.change? configuration value) rest

/-- Take the values of settings in order; there must not be more values than settings. -/
def ofItems? (configuration : Configuration) :
    List Setting → List JsonValue → Option Configuration
  | _, [] => some configuration
  | [], _ :: _ => none
  | setting :: settings, value :: values => do
      ofItems? (← setting.change? configuration value) settings values

/-- The configuration that a document states. -/
def ofJson? : JsonValue → Option Configuration
  | .object members => ofMembers? [] standard members
  | .array values => ofItems? standard settings values
  | _ => none

/-- The configuration that a text states. -/
def parse? (text : String) : Option Configuration := do
  ofJson? (← JsonValue.parse? text)

/-- A setting as a member of a document. -/
def memberText (configuration : Configuration) (setting : Setting) : String :=
  JsonText.quote setting.name ++ ":" ++ setting.text configuration

/-- The document of a configuration. -/
def document (configuration : Configuration) : String :=
  "\x7b" ++ ",".intercalate (settings.map (memberText configuration)) ++ "\x7d"

/-- Read the configuration under a path. -/
def load (files : Files) (path : String) : Except RunError Configuration :=
  match files.find? path with
  | some (.plain bytes) =>
      match String.fromUTF8? bytes with
      | none => .error .fileAccess
      | some text =>
          match parse? text with
          | none => .error .configuration
          | some configuration => .ok configuration
  | _ => .error .fileAccess

end Configuration

end DexSurface
