import QueryAdmission.Ident.Json
import QueryAdmission.Json.Printer
import QueryAdmission.Json.Reader
import QueryAdmission.Latch
import QueryAdmission.Proofs.Operation
import QueryAdmission.Scenario
import QueryAdmission.Settings.Json
import QueryAdmission.Status.Json
import QueryAdmission.Timeline
import QueryAdmission.Vigil
import QueryAdmission.Workload
import QueryAdmission.Proofs.SlotAccount
import QueryAdmission.Proofs.Statuses
import QueryAdmission.Proofs.Custody
import QueryAdmission.Proofs.Passage
import QueryAdmission.Proofs.AllOrNothing
import QueryAdmission.Proofs.Sections
import QueryAdmission.Proofs.Charge
import QueryAdmission.Proofs.Standing
import QueryAdmission.Proofs.Activity
import QueryAdmission.Proofs.Accounted
import QueryAdmission.Proofs.InOrder
import QueryAdmission.Proofs.Regular
import QueryAdmission.Proofs.Traffic
import QueryAdmission.Proofs.Order
import QueryAdmission.Proofs.AtRest
import QueryAdmission.Proofs.Coverage
import QueryAdmission.Proofs.Exclusion
import QueryAdmission.Proofs.ArrivalOrder
import QueryAdmission.Proofs.Overlap
import QueryAdmission.Proofs.Aborted
import QueryAdmission.Proofs.Watch
import QueryAdmission.Proofs.Ledger
import QueryAdmission.Proofs.PlainSession
import QueryAdmission.Proofs.Crew
import QueryAdmission.Proofs.Turn
import QueryAdmission.Proofs.Shift
import QueryAdmission.Proofs.Grants
import QueryAdmission.Proofs.Full
import QueryAdmission.Proofs.Idle
import QueryAdmission.Proofs.Poll
import QueryAdmission.Proofs.Cleanup
import QueryAdmission.Proofs.Debt
import QueryAdmission.Proofs.Reason
import QueryAdmission.Proofs.Parked
import QueryAdmission.Proofs.History
import QueryAdmission.Proofs.Aside
import QueryAdmission.Proofs.FailedStart
import QueryAdmission.Proofs.Recording
import QueryAdmission.Proofs.Absent
import QueryAdmission.Proofs.Nested
import QueryAdmission.Proofs.Tidy
import QueryAdmission.Proofs.Bracket
import QueryAdmission.Proofs.Prefix
import QueryAdmission.Proofs.Ranked
import QueryAdmission.Proofs.Freed
import QueryAdmission.Proofs.Rollback
import QueryAdmission.Proofs.Reach
import QueryAdmission.Proofs.Abandon
import QueryAdmission.Proofs.Matched
import QueryAdmission.Proofs.Registration
import QueryAdmission.Proofs.Conservation
import QueryAdmission.Proofs.Overlay
import QueryAdmission.Proofs.Outcome
import QueryAdmission.Proofs.Noted
import QueryAdmission.Proofs.Enrolment
import QueryAdmission.Proofs.Drawn
import QueryAdmission.Proofs.KeyUse
import QueryAdmission.Proofs.FirstMention
import QueryAdmission.Proofs.Tenure
