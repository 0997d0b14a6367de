import PaymentPortal.Model.Status

/-!
# Errors

The error classes of `src/errors`, the errors of the database driver
(`pgErrors.ts`) and of `node-fetch`, with the messages that the use cases give
them.  An error is thrown as a value of `PortalError`; `instanceof` tests of
the source are matches on its constructors.
-/

namespace PaymentPortal.Model

/-- The SQLSTATE codes that `pgErrors.ts` distinguishes, and all others. -/
inductive SqlState where
  | uniqueViolation
  | lockNotAvailable
  | deadlockDetected
  | other (code : String)
  deriving DecidableEq, Repr

/-- A rejected `fetch` or an aborted body read. -/
structure FetchError where
  name : String
  timedOut : Bool
  deriving DecidableEq, Repr

/-- Everything the use cases throw or catch. -/
inductive PortalError where
  | conflict (message : String)
  | gone (message : String)
  | notFound (message : String)
  | forbidden (message : String)
  | invalidRequest (message : String)
  | server (message : String)
  | payGov (message : String) (statusCode : Nat)
  | failedTransaction (message : String) (code : Option Int)
  | zod
  | feeNotFound (fee : String)
  | feeConfiguration (fee reason : String)
  | database (state : SqlState)
  | fetch (error : FetchError)
  | unexpected (message : String)
  deriving DecidableEq, Repr

namespace ConflictError

def PAYMENT_IN_FLIGHT_MESSAGE : String :=
  "A payment is already being processed for this token"

def PAYMENT_IN_FLIGHT_TRANSACTION_MESSAGE : String :=
  "A payment is already being processed for this transaction. Wait for it to finish before initiating a new payment."

def ALREADY_PAID_MESSAGE : String :=
  "This transaction has already been paid. Use the getDetails API to check the current status."

def PAYMENT_SETTLING_MESSAGE : String :=
  "A payment for this transaction has already been submitted and is still settling. ACH payments can take 1-2 business days to clear. Use the getDetails API to check the current status."

def PERSIST_RACE_MESSAGE : String :=
  "Could not record the payment result because the transaction state changed. Use getDetails to check the current status."

end ConflictError

def SIBLING_GONE_MESSAGE : String :=
  "This token is no longer valid. Another transaction is already fulfilling this obligation. Use the getDetails API to check the current status."

def TOKEN_NO_LONGER_VALID_MESSAGE : String :=
  "This token is no longer valid."

def TOKEN_EXPIRED_MESSAGE : String :=
  "Transaction token has expired. Retry POST /init with the same transactionReferenceId to obtain a new token."

/-- `isUniqueViolation`. -/
def isUniqueViolation : PortalError → Bool
  | .database .uniqueViolation => true
  | _ => false

/-- `isClaimContentionError`: lock not available or deadlock. -/
def isClaimContentionError : PortalError → Bool
  | .database .lockNotAvailable => true
  | .database .deadlockDetected => true
  | _ => false

/-- `RETRYABLE_ERROR_NAMES` of `appContext.ts`. -/
def RETRYABLE_ERROR_NAMES : List String := ["FetchError", "AbortError"]

/-- `isRetryablePaygovError`. -/
def isRetryablePaygovError (error : FetchError) : Bool :=
  RETRYABLE_ERROR_NAMES.contains error.name

end PaymentPortal.Model
