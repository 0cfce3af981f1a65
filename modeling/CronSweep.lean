import CronSweep.Api.Client
import CronSweep.Cluster
import CronSweep.Controller
import CronSweep.Http.Server
import CronSweep.Json.Pointer
import CronSweep.Main
import CronSweep.Proofs.Instant.Order
import CronSweep.Proofs.Selection.Order
import CronSweep.Proofs.Selection.Retention
import CronSweep.Proofs.Selection.Stuck
import CronSweep.Proofs.Deletion.Unseen
import CronSweep.Proofs.Cycle.Run
import CronSweep.Proofs.Policy.Checked
import CronSweep.Proofs.Cycle.Condemned
import CronSweep.Proofs.Cycle.Decision
import CronSweep.Proofs.Cluster.Cycle
import CronSweep.Proofs.Cluster.Accounting
import CronSweep.Proofs.Cluster.Swept
import CronSweep.Proofs.Cluster.Convergence
import CronSweep.Proofs.Cycle.Quiet
import CronSweep.Proofs.Cluster.CleanCycle
import CronSweep.Proofs.Cluster.Ready
import CronSweep.Proofs.Cycle.Change
import CronSweep.Proofs.Cycle.Insistent
import CronSweep.Proofs.Controller.Streak
import CronSweep.Proofs.Race.Counting
import CronSweep.Proofs.Cluster.Change
import CronSweep.Proofs.Api.Deletes
import CronSweep.Proofs.Wire.RoundTrip
import CronSweep.Proofs.Duration.Grammar
import CronSweep.Proofs.Api.Absence
import CronSweep.Proofs.Schema.Agreement
import CronSweep.Proofs.Selection.Excess
import CronSweep.Proofs.Deletion.Batches
import CronSweep.Proofs.Retry.Exponential
import CronSweep.Proofs.Status.Conditions
import CronSweep.Proofs.Selection.Threshold
import CronSweep.Proofs.Duration.Negative
import CronSweep.Proofs.Cluster.Validation
