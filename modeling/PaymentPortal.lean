import PaymentPortal.Guarantees.StatusPairs
import PaymentPortal.Guarantees.ClaimSpacing
import PaymentPortal.Guarantees.Cancellation
import PaymentPortal.Guarantees.SingleCharge
import PaymentPortal.Guarantees.FinalSuccess
import PaymentPortal.Guarantees.Fencing
import PaymentPortal.Guarantees.Retirement
import PaymentPortal.Guarantees.LogPages
import PaymentPortal.Guarantees.Aggregates
import PaymentPortal.Guarantees.IndexMigration
import PaymentPortal.Guarantees.CancellationRollback
import PaymentPortal.Guarantees.Unauthorized
import PaymentPortal.Guarantees.ClosedWindows
import PaymentPortal.Guarantees.FaithfulOutcome
import PaymentPortal.Guarantees.Recovery
import PaymentPortal.Guarantees.Refresh
import PaymentPortal.Guarantees.PermissionFreshness
import PaymentPortal.Guarantees.FailedDetails
import PaymentPortal.Guarantees.FeeInvariance
import PaymentPortal.Guarantees.SessionAgreement
import PaymentPortal.Calendar.Gregorian
import PaymentPortal.Calendar.Zone
import PaymentPortal.Guarantees.CourtDays
import PaymentPortal.Guarantees.PriorYear
import PaymentPortal.Guarantees.LogTimeframe
import PaymentPortal.Guarantees.FeeSelection
import PaymentPortal.Guarantees.StringDecoding
import PaymentPortal.Guarantees.TokenLifetime
import PaymentPortal.Guarantees.RedirectApplications
import PaymentPortal.Guarantees.ConsistentAnswers
import PaymentPortal.Guarantees.SinglePool
import PaymentPortal.Guarantees.Redaction
import PaymentPortal.Guarantees.LiteralSearch
import PaymentPortal.Guarantees.ConservedRevenue
import PaymentPortal.Guarantees.DestructiveMigrations
import PaymentPortal.Guarantees.ClientIsolation
import PaymentPortal.Guarantees.BoundedWork
import PaymentPortal.Guarantees.Books
import PaymentPortal.Maintenance.Justified
import PaymentPortal.Maintenance.Collection
import PaymentPortal.Guarantees.FrontDoor
import PaymentPortal.Guarantees.Orders
import PaymentPortal.MigrationSafety.Gate
