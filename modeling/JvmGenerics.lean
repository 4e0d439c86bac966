import JvmGenerics.ClassFile.Decode
import JvmGenerics.ClassInfo
import JvmGenerics.Classpath.Directory
import JvmGenerics.Config
import JvmGenerics.Descriptor
import JvmGenerics.Import.Run
import JvmGenerics.Proofs.Import.BatchOrder
import JvmGenerics.Proofs.Import.PoolResolution
import JvmGenerics.Proofs.Import.Origins
import JvmGenerics.Signature.Parser
import JvmGenerics.Types.Resolution
import JvmGenerics.Types.Text
import JvmGenerics.Proofs.Types.SameText
import JvmGenerics.Proofs.Import.Fallback
import JvmGenerics.Proofs.Import.Copies
import JvmGenerics.Proofs.Import.Reimport
import JvmGenerics.Proofs.Import.Forgetting
import JvmGenerics.Proofs.Import.Lockstep
import JvmGenerics.Proofs.Import.MissingScopes
import JvmGenerics.Proofs.Import.DroppedSignatures
import JvmGenerics.Proofs.Import.Closure
import JvmGenerics.Proofs.Signature.RoundTrip
import JvmGenerics.Proofs.Signature.Nesting
import JvmGenerics.Proofs.Types.Reread
import JvmGenerics.Proofs.Import.ErasedMethods
import JvmGenerics.Proofs.ClassFile.Layout
import JvmGenerics.Proofs.ClassFile.Delimiting
import JvmGenerics.Proofs.Import.EventLog
import JvmGenerics.Proofs.Import.ClassTable
import JvmGenerics.Proofs.Import.Events
import JvmGenerics.Proofs.Import.Diagnostics
import JvmGenerics.Proofs.ClassFile.DecodedText
import JvmGenerics.Proofs.DescriptorTexts
import JvmGenerics.Proofs.Types.IndexedStore
import JvmGenerics.Proofs.Signature.Location
import JvmGenerics.Proofs.Types.Completion
import JvmGenerics.Proofs.EnclosingClass
import JvmGenerics.Proofs.DirectoryLookup
import JvmGenerics.Proofs.ClassFile.Slots
