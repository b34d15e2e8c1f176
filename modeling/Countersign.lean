import Countersign.Command.Json
import Countersign.Engine.Schedule
import Countersign.Json.Printer
import Countersign.Ledger.Lemmas
import Countersign.Main
import Countersign.Proofs.ClosedLoans
import Countersign.Proofs.Disbursement
import Countersign.Proofs.FeeCollection
import Countersign.Proofs.LienKeeping
import Countersign.Proofs.RejectedFees
import Countersign.Proofs.Resumption
import Countersign.Step.Json
import Countersign.Watch
import Countersign.Proofs.LienIsolation
import Countersign.Proofs.AccountBooking
import Countersign.Proofs.LedgerCall
import Countersign.Proofs.DeskAct
import Countersign.Proofs.Conservation
import Countersign.Proofs.Solvency
import Countersign.Proofs.ChainEntry
import Countersign.Proofs.AuditTrail
import Countersign.Proofs.Commutation
import Countersign.Proofs.JournalReplay
import Countersign.Proofs.Headroom
import Countersign.Proofs.FinalApproval
import Countersign.Proofs.Reapproval
import Countersign.Proofs.Rejection
import Countersign.Proofs.CommandFile
import Countersign.Proofs.Completion
import Countersign.Proofs.LeastLoaded
import Countersign.Proofs.ChainBuild
import Countersign.Proofs.EvenLoads
import Countersign.Proofs.Scanning
import Countersign.Proofs.ApprovalLevels
import Countersign.Proofs.LedgerRefusals
import Countersign.Proofs.PaidCharges
import Countersign.Proofs.ShortRows
import Countersign.Proofs.TableHeadings
import Countersign.Proofs.InstalledDirectory
import Countersign.Proofs.InstalledBooks
import Countersign.Proofs.DateText
import Countersign.Proofs.DecimalText
import Countersign.Proofs.JsonText
import Countersign.Proofs.SetupData
import Countersign.Proofs.BatchStaging
import Countersign.Proofs.StoreListing
