import DexSurface.Proofs.Dex.TableReading

namespace DexSurface

namespace Dex

open Decoder (Reads reads_pure)

/-!
# The header is read back

An image is parsed from the bytes of its header: the magic bytes, the version, the mark of the byte
order, the offset of the map, and the tables.
-/

/-- The tables in the order in which the header names them. -/
def Tables.inOrder (tables : Tables) : List Table :=
  [tables.strings, tables.types, tables.protos, tables.fields, tables.methods, tables.classDefs]

/-- The size and the offset of a table. -/
def Table.place (table : Table) : Nat × Nat :=
  (table.size, table.offset)

/-- The bytes that name a table in the header. -/
def placeBytes (place : Nat × Nat) : Item :=
  word place.1 ++ word place.2

/-- The size and the offset of a table can be stored. -/
structure Table.Fits (table : Table) : Prop where
  size : table.size < Bytes.span 4
  offset : table.offset < Bytes.span 4

section Reading

variable {bytes : ByteArray}

/-- A table that fits is read from its size and its offset. -/
theorem reads_table
    {table : Table}
    (fits : table.Fits) :
    Reads bytes Table.decode (placeBytes table.place) table :=
  (reads_word fits.size).bind ((reads_word fits.offset).bind_pure _)

/-- Tables that fit are read in the order in which the header names them. -/
theorem reads_tables
    {tables : Tables}
    (fits : ∀ table ∈ tables.inOrder, table.Fits) :
    Reads bytes Tables.decode ((tables.inOrder.map Table.place).flatMap placeBytes) tables := by
  obtain ⟨strings, types, protos, fields, methods, classDefs⟩ := tables
  have sameBytes :
      ([strings, types, protos, fields, methods, classDefs].map Table.place).flatMap placeBytes =
        placeBytes strings.place ++ (placeBytes types.place ++ (placeBytes protos.place
          ++ (placeBytes fields.place ++ (placeBytes methods.place
            ++ placeBytes classDefs.place)))) := by
    simp only [List.map_cons, List.map_nil, List.flatMap_cons, List.flatMap_nil, List.append_nil]
  simp only [Tables.inOrder, List.forall_mem_cons] at fits
  obtain ⟨stringsFit, typesFit, protosFit, fieldsFit, methodsFit, classDefsFit, -⟩ := fits
  rw [Tables.inOrder, sameBytes, Tables.decode]
  refine (reads_table stringsFit).bind ?_
  refine (reads_table typesFit).bind ?_
  refine (reads_table protosFit).bind ?_
  refine (reads_table fieldsFit).bind ?_
  refine (reads_table methodsFit).bind ?_
  exact (reads_table classDefsFit).bind_pure _

/-- The bytes with which an image starts. -/
theorem extract_eq_of_stands
    {item : List UInt8}
    {count : Nat}
    (stands : Stands bytes 0 item)
    (sameLength : item.length = count) :
    (bytes.extract 0 count).toList = item := by
  subst sameLength
  obtain ⟨front, rest, sameBytes, atStart⟩ := stands
  obtain rfl := List.length_eq_zero_iff.mp atStart
  rw [toList_eq_data_toList, ByteArray.data_extract, Array.toList_extract, sameBytes]
  simp

/-- The bytes of the header before the mark of the byte order. -/
def headerFront (fileSize : Nat) : Item :=
  Image.magic ++ Assembly.versionText ++ [0] ++ List.replicate 24 0
    ++ word fileSize ++ word Image.headerSize

/-- The bytes of the header from the mark of the byte order to the tables. -/
def headerBack (map : Nat) (tables : Tables) : Item :=
  word Image.byteOrderMark ++ (word 0 ++ (word 0 ++ (word map
    ++ (tables.inOrder.map Table.place).flatMap placeBytes)))

/--
A header is its front, then its back with the tables, then the size and the start of the data.
-/
theorem header_eq (fileSize map dataStart : Nat) (tables : Tables) :
    Assembly.header fileSize map dataStart (tables.inOrder.map Table.place) =
      headerFront fileSize ++ headerBack map tables
        ++ (word (fileSize - dataStart) ++ word dataStart) := by
  simp only [Assembly.header, headerFront, headerBack, List.append_assoc]
  rfl

/-- The mark of the byte order stands behind the front of the header. -/
theorem length_headerFront (fileSize : Nat) :
    (headerFront fileSize).length = Image.byteOrderOffset := by
  simp only [headerFront, List.length_append, length_word]
  rfl

/-- A header has the fixed size. -/
theorem length_header (fileSize map dataStart : Nat) (tables : Tables) :
    (Assembly.header fileSize map dataStart (tables.inOrder.map Table.place)).length =
      Image.headerSize := by
  have placesLength :
      ((tables.inOrder.map Table.place).flatMap placeBytes).length = 6 * 8 :=
    length_flatMap_of_same fun place _ => by
      rw [placeBytes, List.length_append, length_word, length_word]
  rw [header_eq, headerBack]
  simp only [List.length_append, length_headerFront, length_word, placesLength]
  rfl

/-- The back of a header is read as the offset of the map and the tables. -/
theorem reads_headerBack
    {map : Nat}
    {tables : Tables}
    (mapFits : map < Bytes.span 4)
    (tablesFit : ∀ table ∈ tables.inOrder, table.Fits)
    (versionText : String) :
    Reads bytes (Image.decodeHeader versionText) (headerBack map tables) (map, tables) := by
  have markFits : Image.byteOrderMark < Bytes.span 4 := by decide
  have zeroFits : 0 < Bytes.span 4 := by decide
  rw [headerBack, Image.decodeHeader]
  refine (reads_word markFits).bind ?_
  rw [if_neg (not_not_intro rfl)]
  refine (reads_word zeroFits).bind ?_
  refine (reads_word zeroFits).bind ?_
  refine (reads_word mapFits).bind ?_
  exact (reads_tables tablesFit).bind_pure _

/-- The version that is written is version 39. -/
theorem parseVersion?_versionText :
    Image.parseVersion? (Utf8.decodeLossy Assembly.versionText).toList = some 39 := by
  rw [Utf8.decodeLossy, String.toList_ofList]
  have sameChars : Utf8.charsLossy Assembly.versionText = ['0', '3', '9'] := by
    decide +kernel
  rw [sameChars]
  decide

/-- An image that starts with a header is parsed to what the header says. -/
theorem parse_eq
    {fileSize map dataStart : Nat}
    {tables : Tables}
    {restrictions : Option Nat}
    (stands : Stands bytes 0
      (Assembly.header fileSize map dataStart (tables.inOrder.map Table.place)))
    (mapFits : map < Bytes.span 4)
    (tablesFit : ∀ table ∈ tables.inOrder, table.Fits)
    (mapRead : Image.mapItem? bytes map Image.restrictionsItem = .ok restrictions) :
    Image.parse bytes = .ok { bytes, version := 39, tables, restrictions } := by
  have large : ¬ bytes.size < Image.headerSize := by
    have bound := stands.le_size
    rw [length_header] at bound
    omega
  rw [header_eq] at stands
  have sameStart : (bytes.extract 0 8).toList = Image.magic ++ Assembly.versionText ++ [0] :=
    extract_eq_of_stands stands.left.left.left.left.left rfl
  have headerRead (versionText : String) :
      Decoder.runAt (Image.decodeHeader versionText) bytes Image.byteOrderOffset =
        .ok (map, tables) := by
    have backStands := stands.left.right
    rw [length_headerFront, Nat.zero_add] at backStands
    exact Decoder.runAt_eq_ok (reads_headerBack mapFits tablesFit versionText) backStands
  have versionBytes :
      ((Image.magic ++ Assembly.versionText ++ [0]).drop 4).take 3 = Assembly.versionText :=
    rfl
  have hasMagic :
      ¬ ((Image.magic ++ Assembly.versionText ++ [0]).take 4 ≠ Image.magic
        ∨ (Image.magic ++ Assembly.versionText ++ [0]).drop 7 ≠ [0]) := by
    decide
  have isSupported : ¬ (39 < Image.oldestVersion ∨ Image.newestVersion < 39) := by
    decide
  simp only [Image.parse, if_neg large, sameStart, if_neg hasMagic, versionBytes,
    parseVersion?_versionText, if_neg isSupported, headerRead, mapRead, bind, Except.bind, pure,
    Except.pure]

end Reading

end Dex

end DexSurface
