import PaymentPortal.Model.Effects

/-!
# `TransactionModel`

The queries of the use cases as asynchronous functions, with
`safeUpdateToFailed`.
-/

namespace PaymentPortal.Model

namespace TransactionModel

/-- The read that `patchAndFetchById` adds to a write that matched a row. -/
def fetchPatched (agencyTrackingId : String) (updated : Nat) :
    Async (Option Transaction) :=
  if updated = 0 then pure none else query (.findById agencyTrackingId)

/-- `createReceived`: `insertAndFetch`. -/
def createReceived (data : ReceivedTransactionParams) :
    Async (Option Transaction) := do
  let _ ← query (.createReceived data)
  query (.findById data.agencyTrackingId)

def updateToInitiated (agencyTrackingId paygovToken : String) :
    Async Unit := do
  let _ ← query (.updateToInitiated agencyTrackingId paygovToken)
  pure ()

def findByPaygovToken (token : String) : Async (Option Transaction) :=
  query (.findByPaygovToken token)

def findByReferenceId (transactionReferenceId : String) :
    Async (List Transaction) :=
  query (.findByReferenceId transactionReferenceId)

/-- `updateAfterPayGovResponse` without an expected status. -/
def updateAfterPayGovResponse (agencyTrackingId : String)
    (patch : PayGovResponsePatch) : Async Transaction := do
  let count ← query (.updateAfterPayGovResponse agencyTrackingId patch)
  match ← fetchPatched agencyTrackingId count with
  | some updated => pure updated
  | none => throw (.conflict ConflictError.PERSIST_RACE_MESSAGE)

/-- `updateAfterPayGovResponse` with an expected status. -/
def updateAfterPayGovResponseIf (agencyTrackingId : String)
    (patch : PayGovResponsePatch)
    (expectedTransactionStatus : TransactionStatus) : Async Transaction := do
  match ← query (.updateAfterPayGovResponseIf agencyTrackingId patch
      expectedTransactionStatus) with
  | some updated => pure updated
  | none => throw (.conflict ConflictError.PERSIST_RACE_MESSAGE)

def findPendingOrProcessedByReferenceId
    (clientName transactionReferenceId : String) :
    Async (Option Transaction) :=
  query (.findPendingOrProcessedByReferenceId clientName
    transactionReferenceId)

/-- `claimForProcessing`; a rejection is thrown out of the transaction. -/
def claimForProcessing (paygovToken : String) :
    Async (Option Transaction) := do
  liftStep (← query (.claimForProcessing paygovToken))

def findByReferenceIdAndTransactionStatus
    (clientName transactionReferenceId : String)
    (transactionStatus : List TransactionStatus) :
    Async (Option Transaction) :=
  query (.findByReferenceIdAndTransactionStatus clientName
    transactionReferenceId transactionStatus)

/-- `updateToFailed`: `patchAndFetchById`. -/
def updateToFailed (agencyTrackingId : String) (returnCode : Option Int)
    (returnDetail : Option String) : Async (Option Transaction) := do
  let count ← query (.updateToFailed agencyTrackingId returnCode returnDetail)
  fetchPatched agencyTrackingId count

def cancelExpiredBatch (limit : Nat) : Async (List String) :=
  query (.cancelExpiredBatch limit)

def updateToCancelled (agencyTrackingId : String) : Async Nat :=
  query (.updateToCancelled agencyTrackingId)

end TransactionModel

/-- `safeUpdateToFailed`: a failing update is logged and swallowed. -/
def safeUpdateToFailed (agencyTrackingId : String) (code : Option Int)
    (detail : Option String) : Async Unit :=
  tryCatch
    (do
      let _ ← TransactionModel.updateToFailed agencyTrackingId code detail
      pure ())
    fun _ => pure ()

end PaymentPortal.Model
