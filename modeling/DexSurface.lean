import DexSurface.Archive.Package
import DexSurface.Archive.Tiers
import DexSurface.Archive.Zip
import DexSurface.Bytes.Order
import DexSurface.ClassFile.ConstantPool
import DexSurface.ClassFile.Encoding
import DexSurface.ClassFile.Tree
import DexSurface.ClassMap
import DexSurface.ClassRecord
import DexSurface.CommandLine.Arguments
import DexSurface.CommandLine.Program
import DexSurface.Configuration
import DexSurface.Configuration.Document
import DexSurface.Dex.AnnotationDirectory
import DexSurface.Dex.Assembly
import DexSurface.Dex.ClassDefinition
import DexSurface.Dex.Container
import DexSurface.Dex.Decoder
import DexSurface.Dex.Draft
import DexSurface.Dex.DraftEncoding
import DexSurface.Dex.Image
import DexSurface.Extraction
import DexSurface.Files
import DexSurface.Journal
import DexSurface.Main
import DexSurface.Proofs.Reference.LeastClosure
import DexSurface.Proofs.Output.SteadyRun
import DexSurface.Proofs.Output.TierWrites
import DexSurface.Proofs.Surface.PrivateCode
import DexSurface.Reference.Closure
import DexSurface.Run
import DexSurface.RunError
import DexSurface.Stub.Body
import DexSurface.Stub.ClassStub
import DexSurface.Stub.ElementValue
import DexSurface.Stub.Restriction
import DexSurface.Stub.Skeleton
import DexSurface.Text.ModifiedUtf8
import DexSurface.Proofs.Output.Emission
import DexSurface.Proofs.Output.ExactTiers
import DexSurface.Proofs.Dex.PlainText
import DexSurface.Proofs.Dex.StableEntries
import DexSurface.Proofs.Dex.DraftMeaning
import DexSurface.Proofs.Dex.StableItems
import DexSurface.Proofs.Dex.ShownTables
import DexSurface.Proofs.Dex.ValueReading
import DexSurface.Proofs.Dex.ItemReading
import DexSurface.Proofs.Dex.Placement
import DexSurface.Proofs.Dex.PlacedDirectory
import DexSurface.Proofs.Dex.MemberReading
import DexSurface.Proofs.Dex.MemberRuns
import DexSurface.Proofs.Dex.PlacedMembers
import DexSurface.Proofs.Dex.Growth
import DexSurface.Proofs.Dex.PlacedClasses
import DexSurface.Proofs.Dex.PlacedSections
import DexSurface.Proofs.Dex.TableReading
import DexSurface.Proofs.Dex.HeaderReading
import DexSurface.Proofs.Dex.AssembledImage
import DexSurface.Proofs.Dex.AssembleRoundTrip
import DexSurface.Proofs.ClassFile.EnteredConstants
import DexSurface.Proofs.ClassFile.PoolRuns
import DexSurface.Proofs.ClassFile.FileReading
import DexSurface.Proofs.ClassFile.LoweredBodies
import DexSurface.Proofs.ClassFile.LoweredParts
import DexSurface.Proofs.ClassFile.LoweredMembers
import DexSurface.Proofs.ClassFile.LoweredClasses
import DexSurface.Proofs.ClassFile.LoweringRoom
import DexSurface.Proofs.ClassFile.LosslessLowering
import DexSurface.Proofs.Surface.CarriedTypes
import DexSurface.Proofs.Surface.CoveredClasses
import DexSurface.Proofs.Output.EmittedHierarchy
import DexSurface.Proofs.Output.LastWrites
import DexSurface.Proofs.Output.PackagedNames
import DexSurface.Proofs.Output.RestrictedClass
import DexSurface.Proofs.Output.RestrictionEntry
import DexSurface.Proofs.Merge.MergeRuns
import DexSurface.Proofs.Merge.Overlay
import DexSurface.Proofs.Merge.Appending
import DexSurface.Proofs.Descriptor.FieldTypes
import DexSurface.Proofs.Parameters.NameRecovery
import DexSurface.Proofs.Parameters.SlotLayout
import DexSurface.Proofs.Output.PackageContents
import DexSurface.Proofs.Output.MemberAnnotations
import DexSurface.Proofs.Output.RestrictionUse
import DexSurface.Proofs.Dex.InstructionChunks
import DexSurface.Proofs.Dex.VariableLength
import DexSurface.Proofs.Dex.ValueParts
import DexSurface.Proofs.Dex.ValueEncodings
import DexSurface.Proofs.Dex.DebugStreams
import DexSurface.Proofs.Stub.OperandStack
import DexSurface.Proofs.Stub.VerifiedBodies
import DexSurface.Proofs.Output.SelectedMembers
import DexSurface.Proofs.Descriptor.OutermostName
import DexSurface.Proofs.Nested.StubEntries
import DexSurface.Proofs.Nested.TwoDescriptions
import DexSurface.Proofs.Nested.HiddenEntries
import DexSurface.Proofs.Surface.DefaultValues
import DexSurface.Proofs.Stub.TranslatedValues
import DexSurface.Proofs.Output.SortedAnnotations
import DexSurface.Proofs.ClassFile.LoweringFailures
import DexSurface.Proofs.Parameters.AnnotationTables
import DexSurface.Proofs.ClassFile.StoredFlags
import DexSurface.Proofs.Output.SourceFlags
import DexSurface.Proofs.Descriptor.AcceptedTexts
import DexSurface.Proofs.Output.NotedFailures
import DexSurface.Proofs.ClassFile.VariableSpans
import DexSurface.Proofs.ClassFile.BodyLimits
import DexSurface.Proofs.Reference.Walks
import DexSurface.Proofs.Dex.ContainerStreams
import DexSurface.Proofs.Dex.BoundedReading
import DexSurface.Proofs.Dex.ExactAddresses
import DexSurface.Proofs.Dex.MemberSums
import DexSurface.Proofs.Dex.ExactCounters
import DexSurface.Proofs.Dex.ShortestGroups
import DexSurface.Proofs.Dex.JoinedBits
import DexSurface.Proofs.Dex.ShortestPayloads
import DexSurface.Proofs.Dex.BuilderSessions
