import CardLedger.History
import CardLedger.Host.FileTree
import CardLedger.Main
import CardLedger.Record
import CardLedger.Startup
import CardLedger.Proofs.Atomicity
import CardLedger.Proofs.AuditTrail
import CardLedger.Proofs.Caps
import CardLedger.Proofs.ControlRefinement
import CardLedger.Proofs.HostLaunches
import CardLedger.Proofs.IssuanceRuns
import CardLedger.Proofs.LockedDebit
import CardLedger.Proofs.PurchaseFailures
import CardLedger.Proofs.Reconciliation
import CardLedger.Proofs.StageOrder
import CardLedger.Proofs.TenantIsolation
import CardLedger.Proofs.BusinessCalendar
import CardLedger.Proofs.SpendToDate
import CardLedger.Proofs.YearTurn
import CardLedger.Proofs.SpendSnapshot
import CardLedger.Proofs.Ownership
import CardLedger.Proofs.ControlEvaluation
import CardLedger.Proofs.HistoryPages
import CardLedger.Proofs.TaggedForm
import CardLedger.Proofs.IssueEffect
import CardLedger.Proofs.CanonicalPayload
import CardLedger.Proofs.ClockWindow
import CardLedger.Proofs.CategoryMatching
import CardLedger.Proofs.CompanyAddresses
import CardLedger.Proofs.CardValidity
import CardLedger.Proofs.GrowingSums
import CardLedger.Proofs.InactiveCards
import CardLedger.Proofs.Marks
import CardLedger.Proofs.AdministrationAndMoney
import CardLedger.Proofs.CardAgreement
import CardLedger.Proofs.PurchaseOrder
import CardLedger.Proofs.CheckDigit
import CardLedger.Proofs.ExpiryNotice
import CardLedger.Proofs.BalanceTests
import CardLedger.Proofs.FiniteBalances
