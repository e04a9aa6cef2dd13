/-!
# Configuration

What a run adds to its stubs and which entries of a resource archive it copies.
-/

namespace DexSurface

/-- The settings of a run. -/
structure Configuration where
  /-- Append a static initialiser that throws to every stub. -/
  stubInitializer : Bool
  /-- Annotate restricted members and add the annotation type. -/
  hiddenApiAnnotations : Bool
  /-- Copy the manifest and the resource table. -/
  appendResourceBlocks : Bool
  /-- Copy everything under `assets/` and `res/`. -/
  appendResourceFiles : Bool
  resourceArchive : String
  /-- Fields of classes under this type name start never keep constants. -/
  resourceIdNamespace : String
  compressionLevel : Int64
  deriving Repr, DecidableEq

namespace Configuration

/-- The settings of a run that changes none. -/
def standard : Configuration where
  stubInitializer := true
  hiddenApiAnnotations := true
  appendResourceBlocks := true
  appendResourceFiles := true
  resourceArchive := "/system/framework/framework-res.apk"
  resourceIdNamespace := "Lcom/android/internal/R$"
  compressionLevel := 9

instance : Inhabited Configuration := ⟨standard⟩

/-- Some entries of the resource archive are wanted. -/
def splicesResources (configuration : Configuration) : Bool :=
  configuration.appendResourceBlocks || configuration.appendResourceFiles

/-- The names of the manifest and the resource table. -/
def resourceBlocks : List String :=
  ["resources.arsc", "AndroidManifest.xml"]

/-- The folders of resource files. -/
def resourceFolders : List String :=
  ["assets/", "res/"]

/-- An entry of the resource archive is copied. -/
def isSpliced (configuration : Configuration) (name : String) : Bool :=
  (configuration.appendResourceBlocks && resourceBlocks.contains name)
    || (configuration.appendResourceFiles
      && resourceFolders.any fun folder => folder.toList.isPrefixOf name.toList)

/--
The archives of a boot class path in merge order: entries between colons, empty ones dropped, the
last one first, so that the last archive takes precedence.
-/
def bootClassPath (value : String) : List String :=
  (((value.toList.splitOn ':').map String.ofList).filter fun entry => !entry.isEmpty).reverse

end Configuration

end DexSurface
