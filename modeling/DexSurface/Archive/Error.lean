/-!
# Why an archive cannot be read

An archive can be malformed, it can need something that is not supported, or it can lack an entry.
An entry that is found can still have content that ends early.
-/

namespace DexSurface

/-- The parts of an archive that can be malformed. -/
inductive ArchivePart where
  /-- No ending is found. -/
  | ending
  /-- The comment behind the ending does not fit the file. -/
  | comment
  /-- The ending places the directory behind itself. -/
  | directoryPlace
  /-- There is no directory before the ending. -/
  | directory
  /-- The locator places the long ending behind itself. -/
  | locatorPlace
  /-- The locator tells of several disks. -/
  | locatorDisks
  /-- No long ending is found. -/
  | longEnding
  /-- The long ending is shorter than its fields. -/
  | longEndingSize
  /-- The long ending runs into its locator. -/
  | longEndingOverrun
  /-- The long ending and its locator name different disks. -/
  | longEndingDisk
  /-- The long ending does not end at its locator. -/
  | longEndingLength
  /-- The long ending counts more entries than there is room for. -/
  | longEndingCount
  /-- The long ending counts more entries on one disk than on all. -/
  | countOnDisk
  /-- Reading needs a newer version of the format than writing did. -/
  | version
  /-- An entry of the directory does not start with its mark. -/
  | directoryEntry
  /-- An entry does not start with its mark. -/
  | entryHeader
  /-- A name, extra field or comment does not fit the file. -/
  | variableField
  /-- An entry would start behind the largest place. -/
  | entryPlace
  /-- A field of long sizes is too short. -/
  | longSizes
  /-- A field of a name or comment in UTF-8 is too short. -/
  | unicodeSize
  /-- A field in UTF-8 belongs to another name or comment. -/
  | unicodeChecksum
  /-- A field in UTF-8 is not UTF-8. -/
  | unicodeText
  /-- The vendor of an encryption is unknown. -/
  | encryptionVendor
  /-- The version of an encryption is unknown. -/
  | encryptionVersion
  /-- The strength of an encryption is unknown. -/
  | encryptionStrength
  /-- An encrypted entry does not tell how it is encrypted. -/
  | encryptionMissing
  deriving Repr, DecidableEq

/-- The words for a malformed part. -/
def ArchivePart.text : ArchivePart → String
  | .ending => "Could not find EOCD"
  | .comment => "EOCD comment exceeds file boundary"
  | .directoryPlace => "Invalid CDFH offset in EOCD"
  | .directory => "No CDFH found"
  | .locatorPlace => "Invalid EOCD64 Locator CD offset"
  | .locatorDisks => "Multi-disk ZIP files are not supported"
  | .longEnding => "Could not find EOCD64"
  | .longEndingSize => "Low EOCD64 record size"
  | .longEndingOverrun => "EOCD64 extends beyond EOCD64 locator"
  | .longEndingDisk => "Invalid EOCD64: inconsistency with Locator data"
  | .longEndingLength => "Invalid EOCD64: inconsistent length"
  | .longEndingCount => "Invalid EOCD64: inconsistent number of files"
  | .countOnDisk =>
      "ZIP64 footer indicates more files on this disk than in the whole archive"
  | .version =>
      "ZIP64 footer indicates a new version is needed to extract this archive than the version "
        ++ "that wrote it"
  | .directoryEntry => "Invalid Central Directory header"
  | .entryHeader => "Invalid local file header"
  | .variableField => "Variable-length field extends beyond file boundary"
  | .entryPlace => "Archive header is too large"
  | .longSizes => "ZIP64 extra-data field is the wrong length"
  | .unicodeSize => "Unicode extra field is too small"
  | .unicodeChecksum => "CRC32 checksum failed on Unicode extra field"
  | .unicodeText => "Invalid UTF-8"
  | .encryptionVendor => "Invalid AES vendor"
  | .encryptionVersion => "Invalid AES vendor version"
  | .encryptionStrength => "Invalid AES encryption strength"
  | .encryptionMissing => "AES encryption without AES extra data field"

/-- What an archive can need that is not supported. -/
inductive ArchiveFeature where
  /-- The directory lies on another disk than the ending. -/
  | severalDisks
  /-- An entry is encrypted. -/
  | password
  /-- The content of an entry is stored in an unknown way. -/
  | method
  /-- A field of times has an unknown form. -/
  | extendedTimes
  /-- A field of fine times has an unknown length. -/
  | fineTimesLength
  /-- A field of fine times has an unknown tag. -/
  | fineTimesTag
  /-- The tag in a field of fine times has an unknown size. -/
  | fineTimesSize
  /-- A field about encryption has an unknown length. -/
  | encryptionLength
  deriving Repr, DecidableEq

/-- The words for an unsupported feature. -/
def ArchiveFeature.text : ArchiveFeature → String
  | .severalDisks => "Support for multi-disk files is not implemented"
  | .password => "Password required to decrypt file"
  | .method => "Compression method not supported"
  | .extendedTimes => "flags and len don't match in extended timestamp field"
  | .fineTimesLength => "NTFS extra field has an unsupported length"
  | .fineTimesTag => "NTFS extra field has an unsupported attribute tag"
  | .fineTimesSize => "NTFS extra field has an unsupported attribute size"
  | .encryptionLength => "AES extra data field has an unsupported length"

/-- Why an archive, or an entry of it, cannot be read. -/
inductive ArchiveError where
  | malformed (part : ArchivePart)
  | unsupported (feature : ArchiveFeature)
  /-- The file ends within a fixed part of the archive. -/
  | unexpectedEnd
  /-- No password is known for an encrypted entry. -/
  | wrongPassword
  /-- The archive has no entry of a name. -/
  | entryMissing
  deriving Repr, DecidableEq

/-- The text of a failure. -/
def ArchiveError.message : ArchiveError → String
  | .malformed part => "invalid Zip archive: " ++ part.text
  | .unsupported feature => "unsupported Zip archive: " ++ feature.text
  | .unexpectedEnd => "i/o error: failed to fill whole buffer"
  | .wrongPassword => "provided password is incorrect"
  | .entryMissing => "specified file not found in archive"

/-- Why the content of an entry ends early. -/
inductive ContentError where
  /-- The stored form stands for nothing. -/
  | corrupt
  /-- The stored form ends too early. -/
  | truncated
  /-- The content has another checksum than the archive states. -/
  | checksum
  deriving Repr, DecidableEq

/-- The text of a failure. -/
def ContentError.message : ContentError → String
  | .corrupt => "corrupt deflate stream"
  | .truncated => "unexpected end of file"
  | .checksum => "Invalid checksum"

end DexSurface
