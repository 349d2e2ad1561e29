import Leasehold.World.Remote
import Leasehold.World.Schedule
import Leasehold.Uuid
import Leasehold.Loss
import Leasehold.Backoff
import Leasehold.Proofs.World.Move
import Leasehold.Proofs.World.Founding
import Leasehold.Proofs.World.Stretch
import Leasehold.Proofs.World.Inside
import Leasehold.Proofs.World.Visit
import Leasehold.Proofs.World.Script
import Leasehold.Proofs.World.Reachable
import Leasehold.Proofs.World.Staffing
import Leasehold.Proofs.World.Clock
import Leasehold.Proofs.World.Labels
import Leasehold.Proofs.World.Descent
import Leasehold.Proofs.Lock.Ledger
import Leasehold.Proofs.Lock.LifeCycle
import Leasehold.Proofs.Lock.Instance
import Leasehold.Proofs.Lock.ExclusiveSection
import Leasehold.Proofs.Lock.Freshness
import Leasehold.Proofs.Lock.RenewalLoop
import Leasehold.Proofs.Lock.Turnover
import Leasehold.Proofs.Lock.Renewal
import Leasehold.Proofs.Lock.Teardown
import Leasehold.Proofs.Lock.Cancellation
import Leasehold.Proofs.Lock.Discharge
import Leasehold.Proofs.Lock.Guard
import Leasehold.Proofs.Lock.Alarm
import Leasehold.Proofs.Lock.LossNotice
import Leasehold.Proofs.Lock.Exclusion
import Leasehold.Proofs.Lease.History
import Leasehold.Proofs.Lease.Faults
import Leasehold.Proofs.Lock.Waiting
import Leasehold.Proofs.Lock.WaitingVisit
import Leasehold.Proofs.Lock.WaitingTurn
import Leasehold.Proofs.Lock.WaitingRun
import Leasehold.Proofs.Lock.Promptness
import Leasehold.Proofs.Lock.Expiry
import Leasehold.Proofs.Lock.Closing
import Leasehold.Proofs.Lock.Shutdown
import Leasehold.Proofs.World.Story
import Leasehold.Proofs.Lock.UnlockDeadline
import Leasehold.Proofs.Lock.Replies
import Leasehold.Proofs.Lock.SectionOutcome
import Leasehold.Proofs.Lock.CreatingCalls
import Leasehold.Proofs.Lock.Birth
import Leasehold.Proofs.Lock.Provisioning
import Leasehold.Proofs.Name.Grammar
import Leasehold.Proofs.World.Opening
import Leasehold.Proofs.Blob.LostAnswers
import Leasehold.Proofs.Blob.SignedText
import Leasehold.Proofs.Loss.Readers
import Leasehold.Proofs.Backoff.Ceiling
import Leasehold.Proofs.Backoff.Budget
import Leasehold.Proofs.Lock.RetryBudget
import Leasehold.Proofs.World.Calm
import Leasehold.Proofs.World.Part
import Leasehold.Proofs.World.Split
import Leasehold.Proofs.Lock.PartTurns
import Leasehold.Proofs.Lock.Noninterference
