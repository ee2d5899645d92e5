import GuestInit.Host.Processes
import GuestInit.Main
import GuestInit.Rehearsal.Kernel
import GuestInit.Proofs.Safety
import GuestInit.Proofs.Rounds
import GuestInit.Proofs.GuestKernel
import GuestInit.Proofs.Isolation
import GuestInit.Proofs.HostileGuest
import GuestInit.Proofs.PrivilegeDrop
import GuestInit.Proofs.Halting
import GuestInit.Proofs.Splitting
import GuestInit.Proofs.Indifference
import GuestInit.Proofs.LineByLine
import GuestInit.Proofs.RoundTrip
import GuestInit.Proofs.Readiness
import GuestInit.Proofs.OneLine
import GuestInit.Proofs.Duties
import GuestInit.Proofs.TaggedLines
import GuestInit.Proofs.Sweeping
import GuestInit.Proofs.Scanning
import GuestInit.Proofs.Seams
import GuestInit.Proofs.Threshold
import GuestInit.Proofs.Finality
import GuestInit.Proofs.NulFree
import GuestInit.Proofs.Supervision
import GuestInit.Proofs.CleanupOrder
import GuestInit.Proofs.Vanishing
import GuestInit.Proofs.Decoding
import GuestInit.Proofs.ScratchSize
import GuestInit.Proofs.Concatenation
import GuestInit.Proofs.Accounting
import GuestInit.Proofs.Descriptors
import GuestInit.Proofs.Compaction
import GuestInit.Proofs.Rehearsals
import GuestInit.Proofs.RecordedHost
