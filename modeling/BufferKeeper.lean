import BufferKeeper.Main
import BufferKeeper.Proofs.Capacity
import BufferKeeper.Proofs.Frame
import BufferKeeper.Proofs.StaleBytes
import BufferKeeper.Proofs.LastWriter
import BufferKeeper.Proofs.PolicyAgreement
import BufferKeeper.Proofs.Thinning
import BufferKeeper.Proofs.Isolation
import BufferKeeper.Proofs.Calls
import BufferKeeper.Proofs.DisjointClients
import BufferKeeper.Proofs.Snapshot
import BufferKeeper.Proofs.Serving
import BufferKeeper.Proofs.ConnectionFaults
import BufferKeeper.Proofs.Redelivery
import BufferKeeper.Proofs.Admission
import BufferKeeper.Proofs.EmptyRegion
import BufferKeeper.Proofs.ReplacementLog
import BufferKeeper.Proofs.Refusals
import BufferKeeper.Proofs.Machine
import BufferKeeper.Proofs.Truncation
import BufferKeeper.Proofs.WriteOrder
import BufferKeeper.Proofs.TrapFreedom
import BufferKeeper.Proofs.Oversized
import BufferKeeper.Proofs.Pieces
import BufferKeeper.Proofs.Numerals
import BufferKeeper.Proofs.Messages
import BufferKeeper.Proofs.OutcomeLog
import BufferKeeper.Proofs.SectionDefaults
import BufferKeeper.Proofs.Precedence
import BufferKeeper.Proofs.AddressForms
import BufferKeeper.Proofs.ExtraArguments
import BufferKeeper.Proofs.OptionOrder
import BufferKeeper.Proofs.WrittenDocuments
import BufferKeeper.Proofs.WrittenFile
import BufferKeeper.Proofs.WrittenSettings
import BufferKeeper.Proofs.AccessLaws
import BufferKeeper.Proofs.HeaderRows
