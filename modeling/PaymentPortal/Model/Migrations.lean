import PaymentPortal.Model.Statements
import PaymentPortal.Relational.Grouping

/-!
# Migrations of the transactions table

`20260805000000_add_processed_to_unique_active_index.ts` and
`20260915000000_cancel_expired_initiated_transactions.ts`.  A migration runs in
one transaction, which is rolled back when it throws.  Until 20260914000000 the
trigger stamps `last_updated_at` on every update.
-/

namespace PaymentPortal.Model

open PaymentPortal.Relational
open Transaction (COVERED_STATUSES)

/-- Why a migration fails. -/
inductive MigrationError where
  | error (message : String)
  | database (state : SqlState)
  deriving DecidableEq, Repr

/-- The outcome of a migration and the table after its transaction. -/
def inTransaction (up : KeyedTable → Except MigrationError Table)
    (table : KeyedTable) : Except MigrationError Unit × KeyedTable :=
  match up table with
  | .ok after => (.ok (), after.keyed)
  | .error error => (.error error, table)

/-- An update that leaves the primary key alone. -/
def KeyedTable.rewrite (table : KeyedTable)
    (change : Transaction → Transaction)
    (sameId : ∀ row, (change row).agencyTrackingId = row.agencyTrackingId) :
    KeyedTable where
  rows := table.rows.map change
  primaryKey := by
    rw [List.map_map, Function.comp_def]
    simpa only [sameId] using table.primaryKey

/-- `CREATE UNIQUE INDEX idx_transactions_unique_active`. -/
def createUniqueActiveIndex (table : KeyedTable) :
    Except MigrationError Table :=
  match Table.ofRows? table.rows with
  | some indexed => .ok indexed
  | none => .error (.database .uniqueViolation)

/-- `EXISTS` another covered row of the obligation of `row`. -/
def hasCoveredSibling (rows : List Transaction) (row : Transaction) : Bool :=
  rows.any fun other =>
    other.clientName == row.clientName &&
      other.transactionReferenceId == row.transactionReferenceId &&
      other.agencyTrackingId != row.agencyTrackingId &&
      other.statusIn COVERED_STATUSES

theorem hasCoveredSibling_iff {rows : List Transaction} {row : Transaction} :
    hasCoveredSibling rows row = true ↔
      ∃ other ∈ rows, other.obligation = row.obligation ∧
        other.agencyTrackingId ≠ row.agencyTrackingId ∧ other.Active := by
  simp [hasCoveredSibling, Transaction.obligation, Transaction.Active,
    and_assoc]

/-! ## 20260805000000 -/

namespace AddProcessedToUniqueActiveIndex

/-- `DuplicateGroup`. -/
structure DuplicateGroup where
  client_name : String
  transaction_reference_id : String
  paid_count : Nat
  deriving DecidableEq, Repr

/-- The paid attempts. -/
def isPaid (row : Transaction) : Bool :=
  row.statusIn [.pending, .processed]

/-- The obligations with more than one paid attempt. -/
def doublePaid (arrangement : Arrangement Obligation)
    (rows : List Transaction) : List DuplicateGroup :=
  let groups := groupBy arrangement Transaction.obligation (rows.filter isPaid)
  (groups.filter fun group => group.rows.length > 1).map fun group =>
    ⟨group.key.clientName, group.key.transactionReferenceId,
      group.rows.length⟩

/-- One line of the error. -/
def DuplicateGroup.line (row : DuplicateGroup) : String :=
  "  (" ++ row.client_name ++ ", " ++ row.transaction_reference_id ++ ") — " ++
    toString row.paid_count ++ " paid attempts"

def doublePaidMessage (rows : List DuplicateGroup) : String :=
  "Cannot add 'processed' to idx_transactions_unique_active: " ++
    toString rows.length ++
    " obligation(s) have more than one paid attempt. These are real duplicate payments and need to be reconciled (refunded or voided) before this migration can run:\n" ++
    String.intercalate "\n" (rows.map DuplicateGroup.line)

/-- The rows of the common table expression. -/
def isCandidate (rows : List Transaction) (row : Transaction) : Bool :=
  row.statusIn [.received, .initiated, .processing] &&
    hasCoveredSibling rows row

/-- A retired attempt, with the trigger of the time. -/
def supersededPatch (now : Int) (row : Transaction) : Transaction :=
  { row with
    transactionStatus := some .failed
    paymentStatus := .failed
    returnCode := some 5009
    returnDetail := some "Superseded by another attempt for the same obligation"
    lastUpdatedAt := now }

/-- What the update makes of a row: it joins the candidates by id. -/
def retire (now : Int) (rows : List Transaction) (row : Transaction) :
    Transaction :=
  let candidates := (rows.filter (isCandidate rows)).map
    Transaction.agencyTrackingId
  if candidates.contains row.agencyTrackingId then supersededPatch now row
  else row

theorem retire_agencyTrackingId (now : Int) (rows : List Transaction)
    (row : Transaction) :
    (retire now rows row).agencyTrackingId = row.agencyTrackingId := by
  unfold retire
  dsimp only
  split <;> rfl

/-- `up`. -/
def up (arrangement : Arrangement Obligation) (now : Int)
    (table : KeyedTable) : Except MigrationError Table :=
  let duplicates := doublePaid arrangement table.rows
  if duplicates.length > 0 then
    .error (.error (doublePaidMessage duplicates))
  else
    createUniqueActiveIndex (table.rewrite (retire now table.rows)
      (retire_agencyTrackingId now table.rows))

end AddProcessedToUniqueActiveIndex

/-! ## 20260915000000 -/

namespace CancelExpiredInitiatedTransactions

/-- `interval '3 hours'`. -/
def TOKEN_TTL : Int := 10800000

/-- The backlog. -/
def isAbandoned (now : Int) (row : Transaction) : Bool :=
  row.transactionStatus == some .initiated &&
    decide (row.createdAt < now - TOKEN_TTL)

/-- A statement that the unique index may reject. -/
def update (now : Int) (selects : Transaction → Bool)
    (patch : Transaction → Transaction) (table : Table) :
    Except MigrationError Table :=
  match table.update? now selects patch with
  | some after => .ok after
  | none => .error (.database .uniqueViolation)

/-- `up`. -/
def up (now : Int) (table : Table) : Except MigrationError Table :=
  update now (isAbandoned now) cancelledPatch table

/-- The rows that are restored. -/
def isRestored (rows : List Transaction) (row : Transaction) : Bool :=
  row.transactionStatus == some .cancelled && row.returnCode.isNone &&
    !hasCoveredSibling rows row

def restoredPatch (row : Transaction) : Transaction :=
  { row with
    transactionStatus := some .initiated
    paymentStatus := .pending }

/-- `down`; its guard reads the rows as they were before the statement. -/
def down (now : Int) (table : Table) : Except MigrationError Table :=
  update now (isRestored table.rows) restoredPatch table

end CancelExpiredInitiatedTransactions

end PaymentPortal.Model
