import ResilientProxy.Arena
import ResilientProxy.Backoff
import ResilientProxy.Config.File
import ResilientProxy.HoldFlag
import ResilientProxy.Logging.Install
import ResilientProxy.Notice
import ResilientProxy.RetryLoop
import ResilientProxy.Simulation.Scenario
import ResilientProxy.Proofs.Stretch
import ResilientProxy.Proofs.Elapsed
import ResilientProxy.Proofs.CallLoop
import ResilientProxy.Proofs.Ownership
import ResilientProxy.Proofs.Serialized
import ResilientProxy.Proofs.TakenDown
import ResilientProxy.Proofs.Operation
import ResilientProxy.Proofs.Origin
import ResilientProxy.Proofs.AttemptStart
import ResilientProxy.Proofs.Published
import ResilientProxy.Proofs.Bursts
import ResilientProxy.Proofs.SingleFlight
import ResilientProxy.Proofs.ConfigRoundTrip
import ResilientProxy.Proofs.Agreement
import ResilientProxy.Proofs.Observers
import ResilientProxy.Proofs.Breakdown
import ResilientProxy.Proofs.Jobs
import ResilientProxy.Proofs.Simulated
import ResilientProxy.Proofs.Detached
import ResilientProxy.Proofs.Budget
import ResilientProxy.Proofs.Distance
import ResilientProxy.Proofs.Finishing
import ResilientProxy.Proofs.OpenLoop
import ResilientProxy.Proofs.UnderLock
import ResilientProxy.Proofs.Stopping
import ResilientProxy.Proofs.TakingDown
import ResilientProxy.Proofs.Unchanged
import ResilientProxy.Proofs.ReportedOpen
import ResilientProxy.Proofs.Teardown
import ResilientProxy.Proofs.LastReference
import ResilientProxy.Proofs.Logging.RoundTrip
import ResilientProxy.Proofs.Logging.FirstInstall
import ResilientProxy.Proofs.Logging.DirectiveMeaning
import ResilientProxy.Proofs.BumpAllocation
import ResilientProxy.Proofs.Rounding
import ResilientProxy.Proofs.Seconds
import ResilientProxy.Proofs.BackoffCeiling
import ResilientProxy.Proofs.ConfigText
import ResilientProxy.Proofs.LongWaits
