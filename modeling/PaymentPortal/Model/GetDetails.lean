import PaymentPortal.Model.Summaries

/-!
# `getDetails` and the cancellation sweep

`useCases/getDetails.ts` and `useCases/cancelExpiredTransactions.ts`.  Logging
and metrics are left out.
-/

namespace PaymentPortal.Model

/-- `GetDetailsRequest`. -/
structure GetDetailsRequest where
  transactionReferenceId : String
  deriving DecidableEq, Repr

namespace GetDetails

def PAYGOV_RETRY_MESSAGE : String :=
  "There was an error communicating with Pay.gov. Please retry your transaction."

def TERMINAL_STATUSES : List TransactionStatus :=
  [.processed, .failed, .cancelled]

/-- `isTerminal`; null is not terminal. -/
def isTerminal : Option TransactionStatus → Bool
  | none => false
  | some status => TERMINAL_STATUSES.contains status

/-- The tracking id a row is refreshed with: not null, not empty. -/
def refreshId (row : Transaction) : Option String :=
  match row.paygovTrackingId with
  | none => none
  | some trackingId =>
      if trackingId = "" ∨ isTerminal row.transactionStatus = true then none
      else some trackingId

/-- `result.payment_type ? toPaymentMethod(result.payment_type) : null`. -/
def refreshedMethod : Option String → Option DbPaymentMethod
  | none => none
  | some paymentType =>
      if paymentType = "" then none else toPaymentMethod paymentType

/-- The refreshed answer as `updateAfterPayGovResponse` stores it. -/
def refreshPatch (row : Transaction) (result : PayGovGetDetailsTransaction) :
    PayGovResponsePatch :=
  let refreshedStatus := parseTransactionStatus result.transaction_status
  { paygovTrackingId := result.paygov_tracking_id
    transactionStatus := refreshedStatus
    paymentStatus := derivePaymentStatusFromSingleTransaction refreshedStatus
    paymentMethod :=
      refreshedMethod result.payment_type <|> row.paymentMethod
    transactionDate := result.transaction_date
    paymentDate := result.payment_date }

/-- Either step of a refresh fails with the same retryable error. -/
def retryable {α : Type} (task : Async α) : Async α :=
  tryCatch task fun _ => throw (.payGov PAYGOV_RETRY_MESSAGE 500)

/-- The task `Promise.all` runs for one row. -/
def refreshRow (tcsAppId : String) (row : Transaction) :
    Async TransactionRecordSummary :=
  match refreshId row with
  | none => pure (toTransactionRecordSummary row)
  | some trackingId => do
      let result ← retryable
        (GetRequestRequest.makeSoapRequest tcsAppId trackingId)
      retryable do
        let updated ← TransactionModel.updateAfterPayGovResponse
          row.agencyTrackingId (refreshPatch row result)
        pure (toTransactionRecordSummary updated)

/-- `updatePendingAttemptFromPayGov`. -/
def updatePendingAttemptFromPayGov (allRows : List Transaction)
    (transactionReferenceId tcsAppId : String) : Async PaymentResponse := do
  let pendingRows := allRows.filter fun row =>
    row.transactionStatus == some .pending
  if pendingRows.length > 1 then
    throw (.server (
      "More than one pending transaction attempt found for reference ID " ++
        transactionReferenceId))
  else
    let transactions ← promiseAll (allRows.map (refreshRow tcsAppId))
    pure ⟨derivePaymentStatus
      (transactions.map fun summary => some summary.transactionStatus),
      transactions⟩

end GetDetails

open GetDetails

/-- `getDetails`. -/
def getDetails (config : Config) (client : ClientPermission)
    (request : GetDetailsRequest) : Async PaymentResponse := do
  let allRows ← TransactionModel.findByReferenceId
    request.transactionReferenceId
  match allRows with
  | [] => throw (.notFound "Transaction Reference Id was not found")
  | earliest :: _ =>
      match getActiveFee config earliest.fee (some earliest.createdAt) with
      | .error _ => throw (.server "Internal Server Error")
      | .ok fee => do
          liftStep (authorizeClient client earliest.fee)
          let paymentStatus := derivePaymentStatus
            (allRows.map Transaction.transactionStatus)
          if paymentStatus ≠ .pending then
            pure ⟨paymentStatus, allRows.map toTransactionRecordSummary⟩
          else
            updatePendingAttemptFromPayGov allRows
              earliest.transactionReferenceId fee.tcsAppId

/-- `cancelExpiredTransactions`: one bounded statement, the cancelled count. -/
def cancelExpiredTransactions : Async Nat := do
  let cancelled ← TransactionModel.cancelExpiredBatch CANCEL_SWEEP_BATCH_SIZE
  pure cancelled.length

end PaymentPortal.Model
