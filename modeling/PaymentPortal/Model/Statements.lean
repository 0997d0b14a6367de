import PaymentPortal.Model.Transactions

/-!
# Database statements

What each query of `TransactionModel.ts` does to the table.  A statement is
executed atomically; `claimForProcessing` is one statement here because its
transaction holds the row lock from its first query to its commit.
`patchAndFetchById` and `insertAndFetch` are two statements of the driver, a
write and a read by primary key, and are composed in `TransactionModel`.  The
two forms of `updateAfterPayGovResponse`, without and with an expected status,
are two statements.
-/

namespace PaymentPortal.Model

/-- The columns `initPayment` passes to `createReceived`. -/
structure ReceivedTransactionParams where
  agencyTrackingId : String
  fee : String
  clientName : String
  transactionReferenceId : String
  transactionAmount : Amount
  metadata : Option (List (String × String))
  deriving DecidableEq, Repr

/-- The patch of `updateAfterPayGovResponse`. -/
structure PayGovResponsePatch where
  paygovTrackingId : String
  transactionStatus : TransactionStatus
  paymentStatus : PaymentStatus
  paymentMethod : Option DbPaymentMethod
  transactionDate : Option String
  paymentDate : Option String
  deriving DecidableEq, Repr

/-- The database statements of the use cases. -/
inductive Statement where
  | createReceived (data : ReceivedTransactionParams)
  | updateToInitiated (agencyTrackingId paygovToken : String)
  | findByPaygovToken (token : String)
  | findByReferenceId (transactionReferenceId : String)
  | findById (agencyTrackingId : String)
  | updateAfterPayGovResponse (agencyTrackingId : String)
      (patch : PayGovResponsePatch)
  | updateAfterPayGovResponseIf (agencyTrackingId : String)
      (patch : PayGovResponsePatch)
      (expectedTransactionStatus : TransactionStatus)
  | findPendingOrProcessedByReferenceId
      (clientName transactionReferenceId : String)
  | claimForProcessing (paygovToken : String)
  | findByReferenceIdAndTransactionStatus
      (clientName transactionReferenceId : String)
      (transactionStatus : List TransactionStatus)
  | updateToFailed (agencyTrackingId : String)
      (returnCode : Option Int) (returnDetail : Option String)
  | cancelExpiredBatch (limit : Nat)
  | updateToCancelled (agencyTrackingId : String)
  deriving DecidableEq, Repr

/--
What a statement returns.  The claim transaction rejects by throwing, which
rolls it back; the rejection is part of its result.
-/
abbrev Statement.Result : Statement → Type
  | .createReceived _ => Unit
  | .updateToInitiated .. => Nat
  | .findByPaygovToken _ => Option Transaction
  | .findByReferenceId _ => List Transaction
  | .findById _ => Option Transaction
  | .updateAfterPayGovResponse .. => Nat
  | .updateAfterPayGovResponseIf .. => Option Transaction
  | .findPendingOrProcessedByReferenceId .. => Option Transaction
  | .claimForProcessing _ => Except PortalError (Option Transaction)
  | .findByReferenceIdAndTransactionStatus .. => Option Transaction
  | .updateToFailed .. => Nat
  | .cancelExpiredBatch _ => List String
  | .updateToCancelled _ => Nat

/-! ## Rows and patches -/

/-- What a `numeric(12, 2)` column keeps of an amount that it can hold, one that
is not negative. -/
def toNumeric (amount : Amount) : Amount :=
  mathRound (amount * 100) / 100

/-- Amounts of whole cents are kept as they are. -/
theorem toNumeric_of_cents (cents : Nat) :
    toNumeric (cents / 100) = cents / 100 := by
  have same : mathRound (cents / 100 * 100) = cents := by
    apply mathRound_eq_of_near
    simp
  rw [toNumeric, same]
  push_cast
  rfl

/-- The inserted row: `received`, with the column defaults. -/
def receivedRow (now : Int) (data : ReceivedTransactionParams) :
    Transaction where
  agencyTrackingId := data.agencyTrackingId
  paygovTrackingId := none
  fee := data.fee
  clientName := data.clientName
  transactionReferenceId := data.transactionReferenceId
  paymentStatus := .pending
  transactionStatus := some .received
  paygovToken := none
  paymentMethod := none
  transactionAmount := toNumeric data.transactionAmount
  transactionDate := none
  paymentDate := none
  returnCode := none
  returnDetail := none
  createdAt := now
  lastUpdatedAt := now
  metadata := data.metadata

/-- A new attempt is covered by the unique index. -/
theorem receivedRow_active (now : Int) (data : ReceivedTransactionParams) :
    (receivedRow now data).Active :=
  rfl

/-- `updateToInitiated`: status and token, the payment status is left alone. -/
def initiatedPatch (paygovToken : String) (row : Transaction) : Transaction :=
  { row with
    transactionStatus := some .initiated
    paygovToken := some paygovToken }

/-- A column patch that leaves the column alone when its value is falsy. -/
def orKeep (value : Option String) (kept : Option String) : Option String :=
  match value with
  | some text => if text = "" then kept else some text
  | none => kept

/-- `updateAfterPayGovResponse`. -/
def payGovResponsePatch (patch : PayGovResponsePatch) (row : Transaction) :
    Transaction :=
  { row with
    paygovTrackingId := some patch.paygovTrackingId
    transactionStatus := some patch.transactionStatus
    paymentStatus := patch.paymentStatus
    paymentMethod := patch.paymentMethod
    transactionDate := orKeep patch.transactionDate row.transactionDate
    paymentDate := orKeep patch.paymentDate row.paymentDate }

/-- `claimForProcessing`: only the status. -/
def processingPatch (row : Transaction) : Transaction :=
  { row with transactionStatus := some .processing }

/-- `updateToFailed`; an undefined code or detail leaves its column alone. -/
def failedPatch (returnCode : Option Int) (returnDetail : Option String)
    (row : Transaction) : Transaction :=
  { row with
    transactionStatus := some .failed
    paymentStatus := .failed
    returnCode := returnCode <|> row.returnCode
    returnDetail := returnDetail <|> row.returnDetail }

/-- `updateToCancelled` and `cancelExpiredBatch`. -/
def cancelledPatch (row : Transaction) : Transaction :=
  { row with
    transactionStatus := some .cancelled
    paymentStatus := .failed }

/-! ## Conditions -/

/-- `WHERE agency_tracking_id = id`. -/
def hasId (agencyTrackingId : String) (row : Transaction) : Bool :=
  row.agencyTrackingId == agencyTrackingId

/-- `WHERE agency_tracking_id = id AND transaction_status = status`. -/
def hasIdAndStatus (agencyTrackingId : String) (status : TransactionStatus)
    (row : Transaction) : Bool :=
  row.agencyTrackingId == agencyTrackingId &&
    row.transactionStatus == some status

/-- `WHERE paygov_token = token`. -/
def hasToken (token : String) (row : Transaction) : Bool :=
  row.paygovToken == some token

/-- The paid attempts of an obligation. -/
def isPaidAttempt (clientName transactionReferenceId : String)
    (row : Transaction) : Bool :=
  row.statusIn [.pending, .processed] &&
    row.clientName == clientName &&
    row.transactionReferenceId == transactionReferenceId

/-- `NOT paygov_token = token`, which is not true of a null token. -/
def hasOtherToken (token : String) (row : Transaction) : Bool :=
  match row.paygovToken with
  | some other => other != token
  | none => false

/-- `transaction_status = 'initiated' AND created_at < now() - TTL`. -/
def isCancellable (now : Int) (row : Transaction) : Bool :=
  row.transactionStatus == some .initiated &&
    decide (row.createdAt < now - MAX_TOKEN_AGE_MS)

namespace Table

/-- `findPendingOrProcessedByReferenceId`. -/
def findPendingOrProcessed (table : Table)
    (clientName transactionReferenceId : String)
    (excludeToken : Option String) : Option Transaction :=
  let paid := isPaidAttempt clientName transactionReferenceId
  match excludeToken with
  | none => (table.select paid).head?
  | some token =>
      (table.select fun row => paid row && hasOtherToken token row).head?

/-- `UPDATE ... WHERE`, with the number of rows. -/
def updateWhere (now : Int) (selects : Transaction → Bool)
    (patch : Transaction → Transaction) (table : Table) :
    Except SqlState (Nat × Table) :=
  match table.update? now selects patch with
  | some after => .ok ((table.rows.filter selects).length, after)
  | none => .error .uniqueViolation

theorem updateWhere_of_update? {now : Int} {selects : Transaction → Bool}
    {patch : Transaction → Transaction} {table after : Table}
    (updated : table.update? now selects patch = some after) :
    table.updateWhere now selects patch =
      .ok ((table.rows.filter selects).length, after) := by
  simp [updateWhere, updated]

/-- `UPDATE ... WHERE id AND status RETURNING *`, the first returned row. -/
def updateReturning (now : Int) (agencyTrackingId : String)
    (expected : TransactionStatus) (patch : Transaction → Transaction)
    (table : Table) : Except SqlState (Option Transaction × Table) :=
  let selects := hasIdAndStatus agencyTrackingId expected
  match table.update? now selects patch with
  | some after =>
      .ok (((table.rows.filter selects).map
        (updateRow now selects patch)).head?, after)
  | none => .error .uniqueViolation

/-- The guard checks of the claim transaction, in the order of the source. -/
def claimRejection? (table : Table) (now : Int) (paygovToken : String)
    (row : Transaction) : Option PortalError :=
  if (table.findPendingOrProcessed row.clientName row.transactionReferenceId
      (some paygovToken)).isSome then
    some (.gone SIBLING_GONE_MESSAGE)
  else if row.transactionStatus = some .processing ∧
      isStaleProcessingTransaction now row = false then
    some (.conflict ConflictError.PAYMENT_IN_FLIGHT_MESSAGE)
  else if row.transactionStatus ≠ some .processing ∧
      row.transactionStatus ≠ some .initiated then
    some (.gone TOKEN_NO_LONGER_VALID_MESSAGE)
  else
    -- Pay.gov's TTL, for a fresh row and for a stale reclaim alike.
    let tokenAgeMs := now - row.createdAt
    if tokenAgeMs > MAX_TOKEN_AGE_MS then some (.gone TOKEN_EXPIRED_MESSAGE)
    else none

/-- `claimForProcessing`: lock, guard checks, flip to `processing`. -/
def claimForProcessing (now : Int) (paygovToken : String) (table : Table) :
    Except SqlState (Except PortalError (Option Transaction) × Table) :=
  match table.rows.find? (hasToken paygovToken) with
  | none => .ok (.ok none, table)
  | some row =>
      match table.claimRejection? now paygovToken row with
      | some rejection => .ok (.error rejection, table)
      | none =>
          match table.update? now (hasId row.agencyTrackingId)
              processingPatch with
          | some after =>
              .ok (.ok (after.rows.find? (hasId row.agencyTrackingId)), after)
          | none => .error .uniqueViolation

/-- The rows one sweep picks: the oldest `limit` that are not locked. -/
def sweepIds (now : Int) (limit : Nat) (locked : List String)
    (table : Table) : List String :=
  (((table.select (isCancellable now)).filter fun row =>
    !locked.contains row.agencyTrackingId).take limit).map
      Transaction.agencyTrackingId

/-- `cancelExpiredBatch`; `SKIP LOCKED` passes over the ids in `locked`. -/
def cancelExpiredBatch (now : Int) (limit : Nat) (locked : List String)
    (table : Table) : Except SqlState (List String × Table) :=
  let picked := table.sweepIds now limit locked
  match table.update? now
      (fun row => picked.contains row.agencyTrackingId) cancelledPatch with
  | some after => .ok (picked, after)
  | none => .error .uniqueViolation

end Table

/-- Execute one statement at the instant `now`. -/
def Statement.run (now : Int) (locked : List String) (table : Table) :
    (statement : Statement) → Except SqlState (statement.Result × Table)
  | .createReceived data =>
      match table.insert? (receivedRow now data) with
      | some after => .ok ((), after)
      | none => .error .uniqueViolation
  | .updateToInitiated agencyTrackingId paygovToken =>
      table.updateWhere now (hasId agencyTrackingId)
        (initiatedPatch paygovToken)
  | .findByPaygovToken token =>
      .ok (table.rows.find? (hasToken token), table)
  | .findByReferenceId transactionReferenceId =>
      .ok (table.select fun row =>
        row.transactionReferenceId == transactionReferenceId, table)
  | .findById agencyTrackingId =>
      .ok (table.rows.find? (hasId agencyTrackingId), table)
  | .updateAfterPayGovResponse agencyTrackingId patch =>
      table.updateWhere now (hasId agencyTrackingId)
        (payGovResponsePatch patch)
  | .updateAfterPayGovResponseIf agencyTrackingId patch expected =>
      table.updateReturning now agencyTrackingId expected
        (payGovResponsePatch patch)
  | .findPendingOrProcessedByReferenceId clientName transactionReferenceId =>
      .ok (table.findPendingOrProcessed clientName transactionReferenceId none,
        table)
  | .claimForProcessing paygovToken =>
      table.claimForProcessing now paygovToken
  | .findByReferenceIdAndTransactionStatus clientName transactionReferenceId
      transactionStatus =>
      .ok ((table.select fun row =>
        row.clientName == clientName &&
          row.transactionReferenceId == transactionReferenceId &&
          row.statusIn transactionStatus).head?, table)
  | .updateToFailed agencyTrackingId returnCode returnDetail =>
      table.updateWhere now (hasId agencyTrackingId)
        (failedPatch returnCode returnDetail)
  | .cancelExpiredBatch limit =>
      table.cancelExpiredBatch now limit locked
  | .updateToCancelled agencyTrackingId =>
      table.updateWhere now (hasIdAndStatus agencyTrackingId .initiated)
        cancelledPatch

end PaymentPortal.Model
