import PaymentPortal.Model.SoapRequests
import PaymentPortal.Model.TransactionModel
import PaymentPortal.Numeric.Doubles

/-!
# `initPayment`

`useCases/initPayment.ts`.  Logging and metrics are left out: nothing reads
them back.
-/

namespace PaymentPortal.Model

open PaymentPortal.Numeric

/-- `InitPaymentRequest`. -/
structure InitPaymentRequest where
  transactionReferenceId : String
  fee : String
  amount : Option Amount
  urlSuccess : String
  urlCancel : String
  metadata : List (String × String)
  deriving DecidableEq, Repr

/-- `InitPaymentResponse`. -/
structure InitPaymentResponse where
  token : String
  paymentRedirect : String
  deriving DecidableEq, Repr

/-- `EXISTING_TOKEN_ERROR_CODE`. -/
def EXISTING_TOKEN_ERROR_CODE : Int := 5009

/-- `getReturnCode(5009)?.returnDetail`, from the return code table. -/
def EXISTING_TOKEN_RETURN_DETAIL : String :=
  "PayGov token is not found or expired"

namespace InitPayment

/-- The answer with the redirect to Pay.gov. -/
def redirectTo (config : Config) (fee : ActiveFee) (token : String) :
    InitPaymentResponse where
  token := token
  paymentRedirect := config.paymentUrl ++ "?token=" ++ token ++
    "&tcsAppID=" ++ fee.tcsAppId

/-- An unknown fee is the client's error; other errors are rethrown. -/
def feeLookupError (feeKey : String) : PortalError → PortalError
  | .feeNotFound _ => .invalidRequest ("Unknown fee: " ++ feeKey)
  | error => error

/-- `resolveFeeForRequest` at the instant `now`. -/
def resolveFee (config : Config) (now : Int) (feeKey : String)
    (hasAmount : Bool) : Except PortalError ActiveFee :=
  match getActiveFee config feeKey (some now) with
  | .error error => .error (feeLookupError feeKey error)
  | .ok fee =>
      if hasAmount ≠ fee.isVariable then
        .error (.invalidRequest (
          if hasAmount then
            "Fee " ++ feeKey ++ " does not allow variable amounts"
          else "Fee " ++ feeKey ++ " requires an amount"))
      else .ok fee

/-- `resolveFeeForRequest`. -/
def resolveFeeForRequest (config : Config) (feeKey : String)
    (hasAmount : Bool) : Async ActiveFee := do
  let now ← dateNow
  liftStep (resolveFee config now feeKey hasAmount)

/-- `rejectAlreadyPaidTransaction`. -/
def rejectAlreadyPaidTransaction {α : Type} (alreadyPaid : Transaction) :
    Async α :=
  throw (.conflict (
    if alreadyPaid.transactionStatus = some .pending then
      ConflictError.PAYMENT_SETTLING_MESSAGE
    else ConflictError.ALREADY_PAID_MESSAGE))

/-- `rejectIfAlreadyPaid`. -/
def rejectIfAlreadyPaid (clientName transactionReferenceId : String) :
    Async Unit := do
  match ← TransactionModel.findPendingOrProcessedByReferenceId clientName
      transactionReferenceId with
  | none => pure ()
  | some alreadyPaid => rejectAlreadyPaidTransaction alreadyPaid

def EXISTING_IN_FLIGHT_TRANSACTION_ERROR : String :=
  "A payment session is already in-flight for this transactionReferenceId"

/-- `recordReceivedTransaction`. -/
def recordReceivedTransaction (data : ReceivedTransactionParams) :
    Async Unit :=
  tryCatch
    (do
      let _ ← TransactionModel.createReceived data
      pure ())
    fun err =>
      if isUniqueViolation err then do
        rejectIfAlreadyPaid data.clientName data.transactionReferenceId
        throw (.conflict EXISTING_IN_FLIGHT_TRANSACTION_ERROR)
      else throw (.unexpected "Failed to record received transaction")

/-- `isStaleProcessingTransaction`, which reads the clock only if needed. -/
def readStaleProcessing (row : Transaction) : Async Bool :=
  if row.transactionStatus ≠ some .processing then pure false
  else do
    let now ← dateNow
    pure (isStaleProcessingTransaction now row)

/-- `isExpiredInitiatedTransaction`, which reads the clock only if needed. -/
def readExpiredInitiated (row : Transaction) : Async Bool :=
  if row.transactionStatus ≠ some .initiated then pure false
  else do
    let now ← dateNow
    pure (isExpiredInitiatedTransaction now row)

/-- The write that retires a dead attempt. -/
def retire (existingTransaction : Transaction) : Async Unit := do
  if ← readExpiredInitiated existingTransaction then
    let _ ← TransactionModel.updateToCancelled
      existingTransaction.agencyTrackingId
    pure ()
  else
    let _ ← TransactionModel.updateToFailed
      existingTransaction.agencyTrackingId (some EXISTING_TOKEN_ERROR_CODE)
      (some EXISTING_TOKEN_RETURN_DETAIL)
    pure ()

/-- The token `resolveInFlightTransaction` hands out again, if any. -/
def reusableToken (now : Int) (staleProcessing : Bool)
    (existingTransaction : Transaction) : Option String :=
  match existingTransaction.paygovToken with
  | some token =>
      if token ≠ "" ∧
          now - existingTransaction.createdAt < MAX_TOKEN_AGE_MS ∧
          staleProcessing = false then some token
      else none
  | none => none

/-- `resolveInFlightTransaction`. -/
def resolveInFlightTransaction (config : Config)
    (existingTransaction : Transaction) (fee : ActiveFee) :
    Async (Option InitPaymentResponse) := do
  let now ← dateNow
  let staleProcessing ← readStaleProcessing existingTransaction
  if existingTransaction.transactionStatus = some .processing ∧
      staleProcessing = false then
    throw (.conflict ConflictError.PAYMENT_IN_FLIGHT_TRANSACTION_MESSAGE)
  else
    match reusableToken now staleProcessing existingTransaction with
    | some token => pure (some (redirectTo config fee token))
    | none => do
        retire existingTransaction
        pure none

/-- `handleIfPaymentProcessedOrPending`. -/
def handleIfPaymentProcessedOrPending (config : Config)
    (clientName transactionReferenceId : String) (fee : ActiveFee) :
    Async (Option InitPaymentResponse) := do
  match ← TransactionModel.findByReferenceIdAndTransactionStatus clientName
      transactionReferenceId [.initiated, .processing, .pending, .processed] with
  | none => pure none
  | some existingTransaction =>
      match existingTransaction.transactionStatus with
      | some .initiated | some .processing =>
          resolveInFlightTransaction config existingTransaction fee
      | some .pending | some .processed =>
          rejectAlreadyPaidTransaction existingTransaction
      | _ => pure none

/-- `Math.round(amount * 100) / 100`, whose quotient prints as the exact one. -/
def roundToCents (amount : Amount) : Amount :=
  mathRound (nearestDouble (nearestDouble amount * 100)) / 100

/-- Amounts of whole cents that the column can hold are charged as they are. -/
theorem roundToCents_of_cents {cents : Nat} (bounded : cents < 10 ^ 12) :
    roundToCents (cents / 100) = cents / 100 := by
  have whole : (cents : Rat) / 100 * 100 = cents :=
    div_mul_cancel₀ _ (by norm_num)
  have small : |(cents : Rat) / 100 * 100| < 2 ^ 50 := by
    rw [whole, abs_of_nonneg (Nat.cast_nonneg cents)]
    have : (cents : Rat) < 10 ^ 12 := by exact_mod_cast bounded
    linarith
  have near := abs_nearestDouble_mul_sub_lt small
  rw [whole] at near
  have same : mathRound (nearestDouble (nearestDouble (cents / 100) * 100)) =
      cents := mathRound_eq_of_near (by exact_mod_cast near)
  rw [roundToCents, same]
  push_cast
  rfl

/--
Pay.gov is asked for the amount that the row keeps, if it is one of whole cents
that the column can hold.
-/
theorem roundToCents_eq_toNumeric {cents : Nat} (bounded : cents < 10 ^ 12) :
    roundToCents (cents / 100) = toNumeric (cents / 100) := by
  rw [roundToCents_of_cents bounded, toNumeric_of_cents]

/--
Otherwise the product of doubles may lie below the half: 1.005 is charged as
1.00.
-/
example : roundToCents (1005 / 1000) = 1 := by
  decide +kernel

/-- The amount of the attempt: the client's for a variable fee. -/
def transactionAmount (fee : ActiveFee) (amount : Option Amount) : Amount :=
  -- Both are present where they are read: `resolveFee` checks the first,
  -- `getActiveFee` the second.
  if fee.isVariable then amount.getD 0 else fee.amount.getD 0

/-- The session is started at Pay.gov or the attempt is marked failed. -/
def startCollection (params : StartOnlineCollectionParams) : Async String :=
  tryCatch (StartOnlineCollectionRequest.makeSoapRequest params) fun _ => do
    safeUpdateToFailed params.agency_tracking_id none
      (some "Error communicating with Pay.gov")
    throw (.payGov
      "There was an error communicating with Pay.gov. Please retry your transaction."
      504)

/-- The token is stored or the attempt is marked failed. -/
def recordToken (agencyTrackingId token : String) : Async Unit :=
  tryCatch (TransactionModel.updateToInitiated agencyTrackingId token)
    fun _ => do
      safeUpdateToFailed agencyTrackingId none none
      throw (.server
        "Failed to record payment session. Please retry your transaction.")

/-- The part of `initPayment` after the short circuit. -/
def startNewAttempt (config : Config) (client : ClientPermission)
    (request : InitPaymentRequest) (fee : ActiveFee) :
    Async InitPaymentResponse := do
  let amount := transactionAmount fee request.amount
  let agencyTrackingId ← generateAgencyTrackingId
  recordReceivedTransaction {
    agencyTrackingId := agencyTrackingId
    fee := request.fee
    clientName := client.clientName
    transactionReferenceId := request.transactionReferenceId
    transactionAmount := amount
    metadata := some request.metadata }
  let token ← startCollection {
    tcs_app_id := fee.tcsAppId
    agency_tracking_id := agencyTrackingId
    transaction_amount := roundToCents amount
    url_success := request.urlSuccess
    url_cancel := request.urlCancel }
  recordToken agencyTrackingId token
  pure (redirectTo config fee token)

end InitPayment

open InitPayment

/-- `initPayment`. -/
def initPayment (config : Config) (client : ClientPermission)
    (request : InitPaymentRequest) : Async InitPaymentResponse := do
  liftStep (authorizeClient client request.fee)
  let fee ← resolveFeeForRequest config request.fee request.amount.isSome
  match ← handleIfPaymentProcessedOrPending config client.clientName
      request.transactionReferenceId fee with
  | some shortCircuitResponse => pure shortCircuitResponse
  | none => startNewAttempt config client request fee

end PaymentPortal.Model
