import PaymentPortal.Model.Summaries

/-!
# `processPayment`

`useCases/processPayment.ts`: load and authorize, claim the row, complete the
collection at Pay.gov, store the answer.  Logging and metrics are left out.
-/

namespace PaymentPortal.Model

/-- `ProcessPaymentRequest`. -/
structure ProcessPaymentRequest where
  token : String
  deriving DecidableEq, Repr

namespace ProcessPayment

def PAYGOV_RETRY_MESSAGE : String :=
  "We could not complete this transaction with Pay.gov. Please retry the request."

def FEE_NOT_FOUND_DETAIL : String :=
  "Fee configuration not found for this transaction"

def SCHEMA_VALIDATION_DETAIL : String :=
  "Pay.gov returned a response that failed schema validation"

def COMMUNICATION_DETAIL : String := "Error communicating with Pay.gov"

def PERSIST_DETAIL : String := "Failed to persist Pay.gov response"

/-- `loadAuthorizedContext`: the fee of the token's row, authorized. -/
def loadAuthorizedContext (config : Config) (client : ClientPermission)
    (request : ProcessPaymentRequest) : Async ActiveFee := do
  match ← TransactionModel.findByPaygovToken request.token with
  | none => throw (.notFound "Transaction could not be found")
  | some existingTransaction =>
      match getActiveFee config existingTransaction.fee
          (some existingTransaction.createdAt) with
      | .error _ => do
          safeUpdateToFailed existingTransaction.agencyTrackingId none
            (some FEE_NOT_FOUND_DETAIL)
          throw (.server FEE_NOT_FOUND_DETAIL)
      | .ok fee => do
          liftStep (authorizeClient client fee.fee)
          pure fee

/-- What `claimProcessingTransaction` rethrows. -/
def claimError (err : PortalError) : PortalError :=
  if isClaimContentionError err then
    .conflict ConflictError.PAYMENT_IN_FLIGHT_MESSAGE
  else err

/-- `claimProcessingTransaction`. -/
def claimProcessingTransaction (token : String) : Async Transaction :=
  tryCatch
    (do
      match ← TransactionModel.claimForProcessing token with
      | none => throw (.notFound "Transaction could not be found")
      | some claimed => pure claimed)
    fun err => throw (claimError err)

/-- The summaries of all attempts with the transaction's reference id. -/
def summarize (transaction : Transaction) (paymentStatus : PaymentStatus) :
    Async PaymentResponse := do
  let allRows ← TransactionModel.findByReferenceId
    transaction.transactionReferenceId
  pure ⟨paymentStatus, allRows.map toTransactionRecordSummary⟩

/-- The answer as `updateAfterPayGovResponse` stores it. -/
def responsePatch (result : CompleteOnlineCollectionWithDetailsResponse) :
    PayGovResponsePatch :=
  let parsedStatus := parseTransactionStatus result.transaction_status
  { paygovTrackingId := result.paygov_tracking_id
    transactionStatus := parsedStatus
    paymentStatus := derivePaymentStatusFromSingleTransaction parsedStatus
    paymentMethod := toPaymentMethod result.payment_type
    transactionDate := some result.transaction_date
    paymentDate := some result.payment_date }

/-- The three branches of the catch around the completion. -/
def handleCompletionError (transaction : Transaction) :
    PortalError → Async PaymentResponse
  | .failedTransaction message code => do
      let _ ← TransactionModel.updateToFailed transaction.agencyTrackingId
        code (some message)
      summarize transaction .failed
  | .zod => do
      safeUpdateToFailed transaction.agencyTrackingId none
        (some SCHEMA_VALIDATION_DETAIL)
      throw (.payGov PAYGOV_RETRY_MESSAGE 502)
  | _ => do
      safeUpdateToFailed transaction.agencyTrackingId none
        (some COMMUNICATION_DETAIL)
      throw (.payGov PAYGOV_RETRY_MESSAGE 504)

/-- The catch around the guarded write of the answer. -/
def handlePersistError (transaction : Transaction) (err : PortalError) :
    Async Transaction :=
  match err with
  | .conflict message => throw (.conflict message)
  | _ => do
      safeUpdateToFailed transaction.agencyTrackingId none
        (some PERSIST_DETAIL)
      throw (.server
        "Failed to record the payment result. Please retry the request.")

/-- The part of `processPayment` after a completion that returned. -/
def recordResult (transaction : Transaction)
    (result : CompleteOnlineCollectionWithDetailsResponse) :
    Async PaymentResponse := do
  let patch := responsePatch result
  let _ ← tryCatch
    (TransactionModel.updateAfterPayGovResponseIf transaction.agencyTrackingId
      patch .processing)
    (handlePersistError transaction)
  summarize transaction patch.paymentStatus

/-- The completion, with its error as a value: only it is inside the `try`. -/
def completeCollection (tcsAppId token : String) :
    Async (Except PortalError CompleteOnlineCollectionWithDetailsResponse) :=
  tryCatch
    (do
      let result ← CompleteOnlineCollectionWithDetailsRequest.makeSoapRequest
        tcsAppId token
      pure (.ok result))
    fun err => pure (.error err)

end ProcessPayment

open ProcessPayment

/-- `processPayment`. -/
def processPayment (config : Config) (client : ClientPermission)
    (request : ProcessPaymentRequest) : Async PaymentResponse := do
  let fee ← loadAuthorizedContext config client request
  let transaction ← claimProcessingTransaction request.token
  match ← completeCollection fee.tcsAppId request.token with
  | .error err => handleCompletionError transaction err
  | .ok result => recordResult transaction result

end PaymentPortal.Model
