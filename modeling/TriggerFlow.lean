import TriggerFlow.Calendar.Reading
import TriggerFlow.Execution.Document
import TriggerFlow.Main
import TriggerFlow.Memory
import TriggerFlow.Notice
import TriggerFlow.Schema.Response
import TriggerFlow.Session
import TriggerFlow.Store.Column
import TriggerFlow.Telemetry
import TriggerFlow.Proofs.Outcome
import TriggerFlow.Proofs.Run
import TriggerFlow.Proofs.Value.Parts
import TriggerFlow.Proofs.Value.Limits
import TriggerFlow.Proofs.Rule.Tree
import TriggerFlow.Proofs.Rule.Operation
import TriggerFlow.Proofs.Rule.Soundness
import TriggerFlow.Proofs.Rule.Provenance
import TriggerFlow.Proofs.Sandbox
import TriggerFlow.Proofs.Rule.Validation
import TriggerFlow.Proofs.Number.Rounding
import TriggerFlow.Proofs.Number.Range
import TriggerFlow.Proofs.Number.Numeral
import TriggerFlow.Proofs.Json.Token
import TriggerFlow.Proofs.Json.Text
import TriggerFlow.Proofs.Json.RoundTrip
import TriggerFlow.Proofs.Execution.Schedule
import TriggerFlow.Proofs.Execution.Batch
import TriggerFlow.Proofs.Execution.Dispatch
import TriggerFlow.Proofs.Execution.FailOpen
import TriggerFlow.Proofs.Execution.Ledger
import TriggerFlow.Proofs.Execution.Accounting
import TriggerFlow.Proofs.Rule.Depth
import TriggerFlow.Proofs.Rule.Actions
import TriggerFlow.Proofs.Rule.Breakdown
import TriggerFlow.Proofs.Rule.Verdict
import TriggerFlow.Proofs.Sandbox.Exchange
import TriggerFlow.Proofs.Sandbox.Refinement
import TriggerFlow.Proofs.Store.Admission
import TriggerFlow.Proofs.Rule.Reach
import TriggerFlow.Proofs.Rule.Reading
import TriggerFlow.Proofs.Rule.Replacement
import TriggerFlow.Proofs.Schema.Checked
import TriggerFlow.Proofs.Schema.TriggerConfig
import TriggerFlow.Proofs.Store.Row
import TriggerFlow.Proofs.Filter.Breakdown
import TriggerFlow.Proofs.Filter.Normalisation
import TriggerFlow.Proofs.Rule.KeyOrder
import TriggerFlow.Proofs.Execution.Coherence
import TriggerFlow.Proofs.Store.Feed
import TriggerFlow.Proofs.Store.History
import TriggerFlow.Proofs.Rule.Path
import TriggerFlow.Proofs.Rule.Variable
import TriggerFlow.Proofs.Filter.Lookup
import TriggerFlow.Proofs.Schema.Definition
import TriggerFlow.Proofs.Seeding
import TriggerFlow.Proofs.Rule.Lazy
import TriggerFlow.Proofs.Rule.Preorder
import TriggerFlow.Proofs.Rule.Limit
import TriggerFlow.Proofs.Value.Facing
import TriggerFlow.Proofs.Number.Exact
import TriggerFlow.Proofs.Rule.Equality
import TriggerFlow.Proofs.Number.Order
import TriggerFlow.Proofs.Value.Sameness
import TriggerFlow.Proofs.Rule.Equivalence
import TriggerFlow.Proofs.Rule.Ordering
import TriggerFlow.Proofs.Rule.Arithmetic
import TriggerFlow.Proofs.Execution.Actions
import TriggerFlow.Proofs.Execution.Correlation
import TriggerFlow.Proofs.Execution.Trial
import TriggerFlow.Proofs.Filter.Operator
import TriggerFlow.Proofs.Filter.Combination
import TriggerFlow.Proofs.Snapshot
import TriggerFlow.Proofs.Store.Definition
import TriggerFlow.Proofs.Calendar.Day
import TriggerFlow.Proofs.Calendar.Universal
