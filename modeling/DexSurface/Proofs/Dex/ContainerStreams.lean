import Mathlib
import DexSurface.Dex.Container
import DexSurface.Proofs.Dex.PlainText

namespace DexSurface

namespace Dex

/-!
# The classes of a container form one stream

What a container delivers is told from the images alone: reading an image gives one result for each
of its classes, or the reason why it is none, and the results of all images are put behind each
other in the order of the entries.  The classes before the first failure are delivered, and that
failure ends the stream.
-/

/-! Results up to the first failure. -/

/-- The values before the first failure. -/
def beforeFailure (results : List (Except ε α)) : List α :=
  (results.takeWhile Except.isOk).filterMap Except.toOption

/-- The failure of a result. -/
def failure? : Except ε α → Option ε
  | .ok _ => none
  | .error error => some error

/-- The first failure. -/
def firstFailure? (results : List (Except ε α)) : Option ε :=
  results.findSome? failure?

section Cutting

variable {value : α} {error : ε} {first rest : List (Except ε α)}

/-- No results have no values. -/
@[simp]
theorem beforeFailure_nil : beforeFailure ([] : List (Except ε α)) = [] :=
  rfl

/-- A value stands before the failure of the rest. -/
@[simp]
theorem beforeFailure_ok : beforeFailure (.ok value :: rest) = value :: beforeFailure rest :=
  rfl

/-- No value stands before a failure at the front. -/
@[simp]
theorem beforeFailure_error : beforeFailure (.error error :: rest) = [] :=
  rfl

/-- No results have no failure. -/
@[simp]
theorem firstFailure?_nil : firstFailure? ([] : List (Except ε α)) = none :=
  rfl

/-- Behind a value the first failure is that of the rest. -/
@[simp]
theorem firstFailure?_ok : firstFailure? (.ok value :: rest) = firstFailure? rest :=
  rfl

/-- A failure at the front is the first one. -/
@[simp]
theorem firstFailure?_error : firstFailure? (.error error :: rest) = some error :=
  rfl

/-- Behind a failure nothing counts. -/
theorem beforeFailure_append :
    beforeFailure (first ++ rest) =
      match firstFailure? first with
      | none => beforeFailure first ++ beforeFailure rest
      | some _ => beforeFailure first := by
  induction first with
  | nil => rfl
  | cons result others inductionHypothesis =>
      cases result with
      | error error => rfl
      | ok value =>
          rw [List.cons_append, beforeFailure_ok, firstFailure?_ok, inductionHypothesis]
          cases firstFailure? others <;> rfl

/-- The first failure of two parts is that of the first part, or else that of the second. -/
theorem firstFailure?_append :
    firstFailure? (first ++ rest) = (firstFailure? first).or (firstFailure? rest) :=
  List.findSome?_append

/-- Going up to a failure gives the values before it, and the failure. -/
theorem upToFailure_eq (result : α → Except ε β) (elements : List α) :
    Container.upToFailure result elements =
      (beforeFailure (elements.map result), firstFailure? (elements.map result)) := by
  induction elements with
  | nil => rfl
  | cons element others inductionHypothesis =>
      rw [Container.upToFailure, List.map_cons]
      cases result element with
      | error error => rfl
      | ok value => simp [inductionHypothesis]

end Cutting

/-! The classes of one image. -/

namespace Image

/-- What comes of reading each class, in table order. -/
def results (image : Image) : List (Except Error ClassRecord) :=
  (List.range image.classCount).map image.classRecord

/-- A stream has the classes before the first failure, and that failure. -/
theorem streamFrom_eq (image : Image) (index count : Nat) :
    image.streamFrom index count =
      (beforeFailure ((List.range' index count).map image.classRecord),
        firstFailure? ((List.range' index count).map image.classRecord)) := by
  induction count generalizing index with
  | zero => rfl
  | succ count inductionHypothesis =>
      rw [streamFrom, List.range'_succ, List.map_cons]
      cases image.classRecord index with
      | error error => rfl
      | ok record => simp [inductionHypothesis]

/-- The list of classes is all of them, unless one fails. -/
theorem classesFrom_eq (image : Image) (index count : Nat) :
    image.classesFrom index count =
      match firstFailure? ((List.range' index count).map image.classRecord) with
      | none => .ok (beforeFailure ((List.range' index count).map image.classRecord))
      | some error => .error error := by
  induction count generalizing index with
  | zero => rfl
  | succ count inductionHypothesis =>
      rw [classesFrom, List.range'_succ, List.map_cons]
      cases image.classRecord index with
      | error error => rfl
      | ok record =>
          rw [inductionHypothesis, firstFailure?_ok, beforeFailure_ok]
          cases firstFailure? ((List.range' (index + 1) count).map image.classRecord) <;> rfl

/-- The stream has the classes before the first failure. -/
theorem stream_eq (image : Image) :
    image.stream = (beforeFailure image.results, firstFailure? image.results) := by
  rw [stream, streamFrom_eq, results, List.range_eq_range']

/-- The list of the classes of an image is all of them, unless one fails. -/
theorem classes_eq (image : Image) :
    image.classes =
      match firstFailure? image.results with
      | none => .ok (beforeFailure image.results)
      | some error => .error error := by
  rw [classes, classesFrom_eq, results, List.range_eq_range']

/-- The stream of an image ends as the list of its classes does. -/
structure StreamsItsClasses (image : Image) : Prop where
  succeeds : ∀ records, image.stream = (records, none) ↔ image.classes = .ok records
  fails : ∀ error, image.stream.2 = some error ↔ image.classes = .error error

/-- The stream of every image ends as the list of its classes does. -/
theorem streamsItsClasses (image : Image) : image.StreamsItsClasses where
  succeeds := by
    intro records
    rw [stream_eq, classes_eq]
    cases firstFailure? image.results <;> simp
  fails := by
    intro error
    rw [stream_eq, classes_eq]
    cases firstFailure? image.results <;> simp

end Image

namespace Container

/-- What comes of reading the classes of an image, or why its bytes are none. -/
def resultsOf (bytes : ByteArray) : List (Except Error ClassRecord) :=
  match Image.parse bytes with
  | .error error => [.error error]
  | .ok image => image.results

/-- The entries of an archive that are no directories and start like an image. -/
def imageEntries (entries : List ArchiveEntry) : List ArchiveEntry :=
  entries.filter fun entry =>
    !entry.isDirectory && Image.magic.isPrefixOf entry.content.data.toList

/-- The images in a file: an image by itself, or an archive of entries with distinct names. -/
inductive HasImages : FileContent → List ByteArray → Prop where
  | single
      {bytes : ByteArray}
      (isImage : Image.magic <+: bytes.data.toList) :
      HasImages (.plain bytes) [bytes]
  | archive
      {entries : List ArchiveEntry}
      (distinct : (entries.map ArchiveEntry.name).Nodup) :
      HasImages (.archive entries) ((imageEntries entries).map ArchiveEntry.content)

/-- A stream has the classes of images in order up to the first failure, with which it ends. -/
structure DeliversUpToFailure (stream : SourceStream) (images : List ByteArray) : Prop where
  classes : stream.classes = beforeFailure (images.flatMap resultsOf)
  failure :
    stream.failure =
      (firstFailure? (images.flatMap resultsOf)).map fun error =>
        (ContainerError.image error).runError

/-! Opening a container and finding its images. -/

/-- The first bytes of an array are those of its list. -/
theorem toList_extract_zero (bytes : ByteArray) (length : Nat) :
    (bytes.extract 0 length).toList = bytes.data.toList.take length := by
  rw [toList_eq_data_toList, ByteArray.data_extract, Array.toList_extract,
    List.extract_eq_take_drop, List.drop_zero, Nat.sub_zero]

/-- Bytes look like an image exactly if they start with its magic number. -/
theorem looksLikeImage_iff {bytes : ByteArray} :
    looksLikeImage bytes = true ↔ Image.magic <+: bytes.data.toList := by
  rw [looksLikeImage, toList_extract_zero, decide_eq_true_eq, List.prefix_iff_eq_take, eq_comm]

/-- A file that starts like an image holds this image. -/
theorem holdingOf_of_isImage
    {bytes : ByteArray}
    (isImage : Image.magic <+: bytes.data.toList)
    (path : String) :
    holdingOf path bytes = .ok (.image bytes) := by
  have enough : Image.magic.length ≤ bytes.size := by
    have bound := isImage.length_le
    rwa [Array.length_toList] at bound
  have notArchive : looksLikeArchive bytes = false := by
    obtain ⟨rest, sameBytes⟩ := isImage
    rw [looksLikeArchive, toList_extract_zero, ← sameBytes]
    rfl
  rw [holdingOf, if_neg (by omega), notArchive, if_neg (by decide),
    if_pos (looksLikeImage_iff.mpr isImage)]

/-- The names of the images in a listing are those of its image entries. -/
theorem imageNames_ofEntries (entries : List ArchiveEntry) :
    imageNames (Listing.ofEntries entries) =
      .ok ((imageEntries entries).map ArchiveEntry.name) := by
  have sameTest (entry : ArchiveEntry) :
      (!(OpenEntry.ofEntry entry).isDirectory
          && looksLikeImage (OpenEntry.ofEntry entry).content.bytes) =
        (!entry.isDirectory && Image.magic.isPrefixOf entry.content.data.toList) := by
    congr 1
    rw [Bool.eq_iff_iff, looksLikeImage_iff, List.isPrefixOf_iff_prefix]
    rfl
  rw [imageNames, Listing.openAll_ofEntries]
  change Except.ok (List.map OpenEntry.name (List.filter _ (entries.map OpenEntry.ofEntry))) = _
  rw [List.filter_map, List.map_map, imageEntries]
  simp only [Function.comp_def, sameTest]
  rfl

/-- The image of an entry is parsed from its content. -/
theorem payload_ofEntries
    {entries : List ArchiveEntry}
    (distinct : (entries.map ArchiveEntry.name).Nodup)
    {entry : ArchiveEntry}
    (member : entry ∈ imageEntries entries) :
    payload (Listing.ofEntries entries) entry.name =
      .ok { entry := entry.name, bytes := entry.content } := by
  rw [payload, Listing.open?_ofEntries distinct (List.mem_of_mem_filter member)]
  rfl

/-- The images of a file are parsed in order up to the first failure. -/
theorem images_of_hasImages
    {files : Files}
    {path : String}
    {content : FileContent}
    {images : List ByteArray}
    (found : files.find? path = some content)
    (hasImages : HasImages content images) :
    ∃ container payloads,
      open? files path = .ok container
        ∧ container.images = upToFailure parsed payloads
        ∧ payloads.map Payload.bytes = images := by
  cases hasImages with
  | @single bytes isImage =>
      refine ⟨{ path, holding := .image bytes }, [{ entry := Path.fileName path, bytes }], ?_, rfl,
        rfl⟩
      rw [open?, found]
      dsimp only
      rw [holdingOf_of_isImage isImage]
      rfl
  | @archive entries distinct =>
      refine ⟨{ path, holding := .archive (.archive entries) },
        (imageEntries entries).map fun entry => { entry := entry.name, bytes := entry.content },
        ?_, ?_, ?_⟩
      · rw [open?, found]
      · have sameResults : ((imageEntries entries).map ArchiveEntry.name).map
            (fun name => payload (Listing.ofEntries entries) name >>= parsed) =
              ((imageEntries entries).map fun entry =>
                { entry := entry.name, bytes := entry.content }).map parsed := by
          rw [List.map_map, List.map_map]
          refine List.map_congr_left fun entry member => ?_
          rw [Function.comp_apply, payload_ofEntries distinct member]
          rfl
        rw [Container.images]
        dsimp only [listing, FileContent.listing, Except.mapError, Except.bind]
        rw [imageNames_ofEntries]
        dsimp only [bind, Except.bind, pure, Except.pure]
        rw [upToFailure_eq, upToFailure_eq, ← sameResults]
        rfl
      · rw [List.map_map]
        rfl

/-! The stream of the images. -/

/-- A stream over payloads delivers their classes up to the first failure. -/
theorem streamOf_upToFailure (payloads : List Payload) :
    DeliversUpToFailure
      (streamOf (upToFailure parsed payloads).2 (upToFailure parsed payloads).1)
      (payloads.map Payload.bytes) := by
  induction payloads with
  | nil => exact ⟨rfl, rfl⟩
  | cons payload rest inductionHypothesis =>
      rw [upToFailure, parsed]
      cases isParsed : Image.parse payload.bytes with
      | error error =>
          have results : resultsOf payload.bytes = [.error error] := by
            rw [resultsOf, isParsed]
          constructor <;> rw [List.map_cons, List.flatMap_cons, results] <;> rfl
      | ok image =>
          have results : resultsOf payload.bytes = image.results := by
            rw [resultsOf, isParsed]
          dsimp only
          rw [streamOf, Image.stream_eq]
          cases failed : firstFailure? image.results with
          | some error =>
              constructor
              · rw [List.map_cons, List.flatMap_cons, results, beforeFailure_append, failed]
              · rw [List.map_cons, List.flatMap_cons, results, firstFailure?_append, failed]
                rfl
          | none =>
              constructor
              · rw [List.map_cons, List.flatMap_cons, results, beforeFailure_append, failed,
                  ← inductionHypothesis.classes]
                rfl
              · rw [List.map_cons, List.flatMap_cons, results, firstFailure?_append, failed,
                  Option.none_or, ← inductionHypothesis.failure]
                rfl

/--
A file that is an image, or an archive of entries with distinct names, can be loaded, and its stream
has the classes of its images in order up to the first failure.  For each image, the stream ends as
the list of its classes does.
-/
theorem deliversUpToFailure
    {files : Files}
    {path : String}
    {content : FileContent}
    {images : List ByteArray}
    (found : files.find? path = some content)
    (hasImages : HasImages content images) :
    (source files).canLoad path = true
      ∧ DeliversUpToFailure ((source files).stream path) images
      ∧ ∀ image : Image, image.StreamsItsClasses := by
  obtain ⟨container, payloads, opened, parsedImages, rfl⟩ := images_of_hasImages found hasImages
  refine ⟨?_, ?_, Image.streamsItsClasses⟩
  · rw [source]
    dsimp only
    rw [opened]
    rfl
  · have delivers := streamOf_upToFailure payloads
    rw [← parsedImages] at delivers
    rw [source]
    dsimp only
    rw [opened]
    exact delivers

namespace BundleExample

/-- A class definition without supertypes and members, whose type stands at an index. -/
def definition (typeIndex : UInt8) : List UInt8 :=
  [typeIndex, 0, 0, 0, 1, 0, 0, 0, 0xff, 0xff, 0xff, 0xff, 0, 0, 0, 0, 0xff, 0xff, 0xff, 0xff]
    ++ List.replicate 12 0

/-- An image with one type and class definitions for types at some indices. -/
def image (typeIndices : List UInt8) : ByteArray :=
  ([0x64, 0x65, 0x78, 0x0a, 0x30, 0x33, 0x35, 0x00] ++ List.replicate 32 0
    ++ [0x78, 0x56, 0x34, 0x12] ++ List.replicate 12 0
    ++ [1, 0, 0, 0, 0x70, 0, 0, 0, 1, 0, 0, 0, 0x74, 0, 0, 0] ++ List.replicate 24 0
    ++ [typeIndices.length.toUInt8, 0, 0, 0, 0x78, 0, 0, 0] ++ List.replicate 8 0
    ++ [0x78 + 32 * typeIndices.length.toUInt8, 0, 0, 0, 0, 0, 0, 0]
    ++ typeIndices.flatMap definition ++ [0x03, 0x4c, 0x61, 0x3b, 0x00]).toByteArray

/-- The class of the one type. -/
def record : ClassRecord :=
  { (default : ClassRecord) with typeName := "La;", flags := 1 }

/--
A directory that looks like an image, three images and a text; the second image names a type that it
does not have.
-/
def entries : List ArchiveEntry :=
  [.plain "lib/" .stored (image [0]), .plain "classes.dex" .deflated (image [0]),
    .plain "notes.txt" .deflated [0x64, 0x65, 0x78].toByteArray,
    .plain "classes2.dex" .deflated (image [0, 1]), .plain "classes3.dex" .stored (image [0])]

/-- A working directory with the archive of the entries. -/
def files : Files :=
  .ofList [("a", .archive entries)]

set_option maxRecDepth 20000 in
/-- The image with one definition has its one class. -/
theorem resultsOf_image : resultsOf (image [0]) = [.ok record] := by
  cbv

set_option maxRecDepth 20000 in
/-- The image with an unknown type has a class, and behind it a failure. -/
theorem resultsOf_brokenImage :
    resultsOf (image [0, 1]) = [.ok record, .error (.indexOutOfRange .type 1)] := by
  cbv

set_option maxRecDepth 20000 in
/-- Three of the entries are images. -/
theorem imageEntries_entries :
    (imageEntries entries).map ArchiveEntry.content = [image [0], image [0, 1], image [0]] := by
  rfl

/-- The classes of the first image and the first class of the second one are delivered. -/
theorem deliversUpToFailure_bundle :
    files.find? "a" = some (.archive entries)
      ∧ HasImages (.archive entries) [image [0], image [0, 1], image [0]]
      ∧ ((source files).stream "a").classes = [record, record]
      ∧ ((source files).stream "a").failure = some (.source "type index 1 out of range") := by
  have found (content : FileContent) :
      (Files.ofList [("a", content)]).find? "a" = some content := by
    cbv
  have hasImages : HasImages (.archive entries) [image [0], image [0, 1], image [0]] := by
    rw [← imageEntries_entries]
    exact .archive (by decide)
  obtain ⟨-, ⟨classes, failure⟩, -⟩ := deliversUpToFailure (found _) hasImages
  simp only [List.flatMap_cons, resultsOf_image, resultsOf_brokenImage] at classes failure
  exact ⟨found _, hasImages, classes, failure⟩

end BundleExample

end Container

end Dex

end DexSurface
