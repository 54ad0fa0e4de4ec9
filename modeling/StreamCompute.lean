import StreamCompute.Proofs.MountTable
import StreamCompute.Proofs.DataFlow
import StreamCompute.Proofs.ExactRelease
import StreamCompute.Proofs.ExclusiveMemory
import StreamCompute.Scenario.DriverSession
import StreamCompute.Scenario.HostBuffers
import StreamCompute.Scenario.Measuring
import StreamCompute.Scenario.Script
import StreamCompute.Proofs.Patience
import StreamCompute.Proofs.Truthfulness
import StreamCompute.Proofs.SplitWaiting
import StreamCompute.Proofs.FailedMemory
import StreamCompute.Proofs.HandleTables
import StreamCompute.Proofs.EmptyPlaces
import StreamCompute.Proofs.BindOrder
import StreamCompute.Proofs.HeldImages
import StreamCompute.Proofs.Injections
import StreamCompute.Proofs.DeadContexts
import StreamCompute.Proofs.PageSizes
import StreamCompute.Proofs.Thresholds
