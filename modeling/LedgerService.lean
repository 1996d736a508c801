import LedgerService.Main
import LedgerService.Proofs.Traffic.Move
import LedgerService.Rpc.Types
import LedgerService.Store.Rehearsal
import LedgerService.Store.Shelf
import LedgerService.Traffic.Readings
import LedgerService.Transport.Administration
import LedgerService.Proofs.Traffic.Calls
import LedgerService.Proofs.Traffic.Slots
import LedgerService.Proofs.Traffic.Journey
import LedgerService.Proofs.Rpc.Assembly
import LedgerService.Proofs.Rpc.Occupancy
import LedgerService.Proofs.Traffic.Watches
import LedgerService.Proofs.Rpc.Route
import LedgerService.Proofs.Rpc.Detachment
import LedgerService.Proofs.Traffic.Counters
import LedgerService.Proofs.Traffic.Promptness
import LedgerService.Proofs.Traffic.Candor
import LedgerService.Proofs.Rpc.Verdicts
import LedgerService.Proofs.Rpc.Handlers
import LedgerService.Proofs.Rpc.Accounts
import LedgerService.Proofs.Fees.Ring
import LedgerService.Proofs.Fees.Window
import LedgerService.Proofs.Fees.Book
import LedgerService.Proofs.Fees.Likeness
import LedgerService.Proofs.Store.View
import LedgerService.Proofs.Ingestion.Agreement
import LedgerService.Proofs.Ingestion.Keeping
import LedgerService.Proofs.Ingestion.Replay
import LedgerService.Proofs.Ingestion.Restart
import LedgerService.Proofs.Ingestion.Losses
import LedgerService.Proofs.Json.Consumption
import LedgerService.Proofs.Json.RoundTrip
import LedgerService.Proofs.Schema.Description
import LedgerService.Proofs.Schema.Decoding
import LedgerService.Proofs.Schema.Reading
import LedgerService.Proofs.Schema.Encoding
import LedgerService.Proofs.Ledger.Lossless
import LedgerService.Proofs.Ledger.Order
import LedgerService.Proofs.Ledger.Gaps
import LedgerService.Proofs.Store.Contents
import LedgerService.Proofs.Ledger.Span
import LedgerService.Proofs.Traffic.Settling
import LedgerService.Proofs.Rpc.Paging
import LedgerService.Proofs.Rpc.Walk
import LedgerService.Proofs.Rpc.Registration
import LedgerService.Proofs.Settings.Soundness
import LedgerService.Proofs.Store.Catalogue
import LedgerService.Proofs.Store.Archive
import LedgerService.Proofs.Traffic.Admission
import LedgerService.Proofs.Traffic.Posts
import LedgerService.Proofs.Traffic.Vigil
import LedgerService.Proofs.Traffic.Course
import LedgerService.Proofs.Traffic.Timetable
import LedgerService.Proofs.Rpc.Deadlines
import LedgerService.Proofs.Traffic.Departure
import LedgerService.Proofs.Traffic.Progress
import LedgerService.Proofs.Fees.History
import LedgerService.Proofs.Ingestion.Entering
import LedgerService.Proofs.Traffic.Errand
import LedgerService.Proofs.Traffic.Mirror
import LedgerService.Proofs.Traffic.Supervision
import LedgerService.Proofs.Fees.Sequences
import LedgerService.Proofs.Fees.Percentiles
import LedgerService.Proofs.Fees.Mode
import LedgerService.Proofs.Ingestion.Contributions
import LedgerService.Proofs.Ingestion.Tail
import LedgerService.Proofs.Rpc.Cursor
import LedgerService.Proofs.Rpc.Resuming
import LedgerService.Proofs.Ingestion.Workplace
import LedgerService.Proofs.Rpc.Coherence
import LedgerService.Proofs.Rpc.FeeReports
import LedgerService.Proofs.Ingestion.Logbook
import LedgerService.Proofs.Rpc.UsualPages
import LedgerService.Proofs.Rpc.Freshness
import LedgerService.Proofs.Settings.Gathering
import LedgerService.Proofs.Settings.Layering
import LedgerService.Proofs.Ledger.Members
import LedgerService.Proofs.Settings.Interchange
