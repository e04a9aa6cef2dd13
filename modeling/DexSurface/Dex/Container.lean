import DexSurface.Dex.ClassDefinition
import DexSurface.Files
import DexSurface.Source

/-!
# Containers of images

An input is an image or an archive of images.  Entries of an archive that do not start like an image
are left out.  The classes of all images form one stream, which ends at the first failure.
-/

namespace DexSurface

namespace Dex

/-- Why a container cannot be read. -/
inductive ContainerError where
  /-- The file cannot be read. -/
  | fileAccess
  /-- The file looks like an archive but cannot be read as one. -/
  | archive (error : ArchiveError)
  /-- The content of an entry cannot be read. -/
  | content (error : ContentError)
  /-- The file is neither an image nor an archive. -/
  | unknownFormat (description : String)
  /-- An image cannot be read. -/
  | image (error : Error)
  deriving Repr, DecidableEq

/-- The text of a failure. -/
def ContainerError.message : ContainerError → String
  | .fileAccess => "IO error: file cannot be read"
  | .archive error => "Zip error: " ++ error.message
  | .content error => "IO error: " ++ error.message
  | .unknownFormat description => "unknown container format: " ++ description
  | .image error => error.message

/-- A failure of a source of classes; a counter that overflows breaks off more than the source. -/
def ContainerError.runError : ContainerError → RunError
  | .image .counterOverflow => .counterOverflow
  | error => .source error.message

/-- What a container holds. -/
inductive Holding where
  /-- The bytes of an image. -/
  | image (bytes : ByteArray)
  /-- A file that is an archive of images. -/
  | archive (content : FileContent)

/-- A container whose kind is known; an archive is read with its images. -/
structure Container where
  path : String
  holding : Holding

/-- An image that is not parsed yet. -/
structure Payload where
  entry : String
  bytes : ByteArray

namespace Container

/-- The bytes start like an image. -/
def looksLikeImage (bytes : ByteArray) : Bool :=
  (bytes.extract 0 Image.magic.length).toList = Image.magic

/-- The bytes that start an archive. -/
def archiveMagic : List UInt8 := [0x50, 0x4b]

/-- The bytes start like an archive. -/
def looksLikeArchive (bytes : ByteArray) : Bool :=
  (bytes.extract 0 archiveMagic.length).toList = archiveMagic

/-- What plain bytes under a path hold. -/
def holdingOf (path : String) (bytes : ByteArray) : Except ContainerError Holding :=
  if bytes.size < Image.magic.length then
    .error (.unknownFormat (path ++ " is too short"))
  else if looksLikeArchive bytes then
    .ok (.archive (.plain bytes))
  else if looksLikeImage bytes then
    .ok (.image bytes)
  else
    .error (.unknownFormat path)

/-- Open the container under a path. -/
def open? (files : Files) (path : String) : Except ContainerError Container :=
  match files.find? path with
  | none => .error .fileAccess
  | some .directory => .error (.unknownFormat (path ++ " is too short"))
  | some (.plain bytes) => return { path, holding := ← holdingOf path bytes }
  | some (.archive entries) => .ok { path, holding := .archive (.archive entries) }

/-- The listing of an archive. -/
def listing (content : FileContent) : Except ContainerError Listing :=
  content.listing.mapError .archive

/--
The names of the images among the members of an archive; each member must open, and what follows the
first bytes of an image does not count.
-/
def imageNames (listing : Listing) : Except ContainerError (List String) := do
  let entries ← listing.openAll.mapError .archive
  let images := entries.filter fun entry => !entry.isDirectory && looksLikeImage entry.content.bytes
  return images.map OpenEntry.name

/-- The names of the images in order. -/
def entryNames (container : Container) : Except ContainerError (List String) :=
  match container.holding with
  | .image _ => .ok [Path.fileName container.path]
  | .archive content => do imageNames (← listing content)

/-- The image of a name in an archive. -/
def payload (listing : Listing) (name : String) : Except ContainerError Payload := do
  let entry ← (listing.open? name).mapError .archive
  return { entry := name, bytes := ← entry.content.all.mapError .content }

/-- Results of a computation on elements in order, up to the first failure. -/
def upToFailure (result : α → Except ε β) : List α → List β × Option ε
  | [] => ([], none)
  | element :: rest =>
      match result element with
      | .error error => ([], some error)
      | .ok value =>
          let (values, failure) := upToFailure result rest
          (value :: values, failure)

/-- Parse an image. -/
def parsed (payload : Payload) : Except ContainerError (String × Image) :=
  match Image.parse payload.bytes with
  | .error error => .error (.image error)
  | .ok image => .ok (payload.entry, image)

/-- The images up to the first failure, and that failure. -/
def images (container : Container) : List (String × Image) × Option ContainerError :=
  match container.holding with
  | .image bytes => upToFailure parsed [{ entry := Path.fileName container.path, bytes }]
  | .archive content =>
      match (listing content).bind fun listing => return (listing, ← imageNames listing) with
      | .error error => ([], some error)
      | .ok (listing, names) => upToFailure (fun name => payload listing name >>= parsed) names

/-- The stream of the classes of images up to the first failure. -/
def streamOf (last : Option ContainerError) : List (String × Image) → SourceStream
  | [] => { events := [], classes := [], failure := last.map ContainerError.runError }
  | (entry, image) :: rest =>
      let started := Event.imageStarted entry image.classCount image.version
      match image.stream with
      | (classes, some error) =>
          { events := [started], classes, failure := some (ContainerError.image error).runError }
      | (classes, none) => (SourceStream.mk [started] classes none).append (streamOf last rest)

/-- The classes of all images up to the first failure. -/
def stream (container : Container) : SourceStream :=
  let (images, failure) := container.images
  streamOf failure images

end Container

/-- The classes of the images in containers. -/
def source (files : Files) : ClassSource where
  name := "dex"
  canLoad path := (Container.open? files path).isOk
  stream path :=
    match Container.open? files path with
    | .error error => { events := [], classes := [], failure := some error.runError }
    | .ok container => container.stream

end Dex

end DexSurface
