import TodoLedger.Database.Json
import TodoLedger.Main
import TodoLedger.Proofs.Service.History
import TodoLedger.Proofs.Consistency
import TodoLedger.Proofs.Counters
import TodoLedger.Proofs.Encoding
import TodoLedger.Proofs.Opening
import TodoLedger.Proofs.Service.Targets
import TodoLedger.Proofs.Service.Disclosure
import TodoLedger.Proofs.Service.Failure
import TodoLedger.Proofs.Uniqueness
import TodoLedger.Proofs.Ledger.OneByOne
import TodoLedger.Proofs.Ledger.Lookup
import TodoLedger.Proofs.Service.Difference
import TodoLedger.Proofs.Service.Request
import TodoLedger.Proofs.Service.Isolation
import TodoLedger.Proofs.Service.Repetition
import TodoLedger.Proofs.Service.Recording
import TodoLedger.Proofs.Lifecycle
import TodoLedger.Proofs.Service.Balance
import TodoLedger.Proofs.Ledger.Progress
import TodoLedger.Proofs.Service.Acceptance
import TodoLedger.Proofs.Mention.Address
import TodoLedger.Proofs.Mention.InCode
import TodoLedger.Proofs.TaskList
import TodoLedger.Proofs.Mention.Settling
import TodoLedger.Proofs.Recipients
import TodoLedger.Proofs.Service.Edits
import TodoLedger.Proofs.Service.Openings
import TodoLedger.Proofs.Service.Comments
import TodoLedger.Proofs.Service.RoundTrip
import TodoLedger.Proofs.Records
import TodoLedger.Proofs.Listing
import TodoLedger.Proofs.Service.Identity
import TodoLedger.Proofs.Service.Destruction
import TodoLedger.Proofs.Access
import TodoLedger.Proofs.Service.Builds
import TodoLedger.Proofs.Ledger.Independence
import TodoLedger.Proofs.Reference
import TodoLedger.Proofs.Drift
